import TrackerGateway.Proofs.Egts.Attribution
import TrackerGateway.Proofs.Gateway.Steps

/-!
# Which device a connection's commands are for

A connection is `Routed` if it serves the device of its session. What a unit tells is taken in a
fixed order: first the session that it left, then its positions; of a unit that fails nothing is
taken. So a connection stays routed exactly as long as each of its units `Settles`: the device
that it told of last is that of the session, and if it failed it left the session's device as it
was (`routed_handleAll_iff`). Units of watches settle as long as the media store takes what they
bring.
-/

namespace TrackerGateway

/-- The device that a position is of, if it is of one. -/
def Position.device? (p : Position) : Option DeviceId :=
  if p.deviceId.isSet then some p.deviceId else none

namespace Connection

theorem deviceId_learn (c : Connection) (session : Option Session) :
    (c.learn session).deviceId = (session.map (·.deviceId)).or c.deviceId := by
  cases session <;> rfl

theorem deviceId_serve (c : Connection) (p : Position) :
    (c.serve p).deviceId = p.device?.or c.deviceId := by
  unfold serve Position.device?
  split <;> rfl

/-- After positions a connection serves the last device among theirs. -/
theorem deviceId_foldl_serve (c : Connection) (positions : List Position) :
    (positions.foldl serve c).deviceId = (latest? Position.device? positions).or c.deviceId := by
  induction positions generalizing c with
  | nil => rfl
  | cons p positions ih =>
    have split := latest?_append Position.device? [p] positions
    rw [List.singleton_append, latest?_singleton] at split
    rw [List.foldl_cons, ih, deviceId_serve, split, Option.or_assoc]

end Connection

namespace Gateway

variable {δ μ : Type}

/-- The device of a connection's session. -/
def deviceOf? (g : Gateway δ μ) (id : ConnectionId) : Option DeviceId :=
  g.services.sessions.device? id

/-- Whether a connection, if it is open, serves the device of its session, and none without one. -/
def Routed (g : Gateway δ μ) (id : ConnectionId) : Prop :=
  ∀ c ∈ g.connection? id, c.deviceId = g.deviceOf? id

instance (g : Gateway δ μ) (id : ConnectionId) : Decidable (g.Routed id) :=
  inferInstanceAs (Decidable (∀ c ∈ g.connection? id, _))

theorem routed_of_closed {g : Gateway δ μ} {id : ConnectionId} (closed : g.connection? id = none) :
    g.Routed id := by
  intro c isOpen
  rw [closed] at isOpen
  cases isOpen

theorem routed_of_open {g : Gateway δ μ} {id : ConnectionId} {c : Connection}
    (isOpen : g.connection? id = some c) : g.Routed id ↔ c.deviceId = g.deviceOf? id := by
  constructor
  · intro routed
    exact routed c isOpen
  · intro same c' isOpen'
    rw [isOpen] at isOpen'
    cases isOpen'
    exact same

/-- A connection that has just been opened serves no device and has no session. -/
theorem routed_accept {g : Gateway δ μ} (protocol : Protocol) (transport : Transport)
    (endpoint : Endpoint) (new : g.services.registry.sessionOf? ⟨g.nextConnection⟩ = none) :
    (g.accept protocol transport endpoint).2.Routed (g.accept protocol transport endpoint).1 := by
  have isOpen : (g.accept protocol transport endpoint).2.connection?
      (g.accept protocol transport endpoint).1 =
        some (.start (g.options protocol) protocol transport endpoint) := by
    simp only [accept, connection?, put, Table.get?_put, if_true]
  rw [routed_of_open isOpen]
  show none = (g.services.registry.sessionOf? ⟨g.nextConnection⟩).map (·.deviceId)
  rw [new]
  rfl

/-! ### Handing on -/

theorem connections_foldl_emit (g : Gateway δ μ) (positions : List Position) :
    (positions.foldl emit g).connections = g.connections := by
  rw [foldl_emit]

theorem deviceOf?_foldl_emit (g : Gateway δ μ) (positions : List Position) (id : ConnectionId) :
    (positions.foldl emit g).deviceOf? id = g.deviceOf? id := by
  obtain ⟨lastPositions, same⟩ := g.services.registry.exists_foldl_updateLast positions
  rw [foldl_emit, same]
  rfl

theorem connection?_close_of_ne (g : Gateway δ μ) {id other : ConnectionId}
    (different : id ≠ other) : (g.close id).connection? other = g.connection? other := by
  unfold close
  split
  · simp only [connection?, Table.get?_erase, different, if_false]
  · rfl

theorem connection?_close (g : Gateway δ μ) (id : ConnectionId) :
    (g.close id).connection? id = none := by
  unfold close
  split
  · simp only [connection?, Table.get?_erase, if_true]
  · rename_i closed
    rw [Table.holds, Bool.not_eq_true, Option.isSome_eq_false_iff,
      Option.isNone_iff_eq_none] at closed
    exact closed

theorem deviceOf?_close_of_ne (g : Gateway δ μ) {id other : ConnectionId} (different : id ≠ other) :
    (g.close id).deviceOf? other = g.deviceOf? other := by
  unfold close
  split
  · simp only [deviceOf?, Sessions.device?, Services.sessions, Registry.sessionOf?_release,
      different, if_false]
  · rfl

/-! ### One unit -/

variable [Directory δ] [MediaStore μ]

theorem process_of_closed {g : Gateway δ μ} {id : ConnectionId} (closed : g.connection? id = none)
    (receivedAt : Instant) (unit : Bytes) : g.process id receivedAt unit = g := by
  rw [process, closed]

section

variable {g : Gateway δ μ} {id : ConnectionId} {receivedAt : Instant} {unit : Bytes}
  {c : Connection} {decoder : Decoder} {services : Services δ μ}

/-- A unit that decodes: the connection serves the last device that it told of, or else that of the
session it left. -/
theorem process_of_ok {positions : List Position} (isOpen : g.connection? id = some c)
    (decoded : c.decoder.decode g.services id receivedAt unit =
      (.ok positions, decoder, services)) :
    (∃ c', (g.process id receivedAt unit).connection? id = some c' ∧
      c'.deviceId = (latest? Position.device? positions).or
        ((services.sessions.device? id).or c.deviceId)) ∧
      (g.process id receivedAt unit).deviceOf? id =
        services.sessions.device? id := by
  simp only [process, isOpen, decoded, deliver]
  constructor
  · simp only [connection?, connections_foldl_emit, put, sendReplies, Table.get?_put, if_true]
    refine ⟨_, rfl, ?_⟩
    rw [Connection.deviceId_foldl_serve, Connection.deviceId_learn]
    rfl
  · rw [deviceOf?_foldl_emit]
    rfl

/-- A unit that fails leaves the connection with the device it served. -/
theorem process_of_error {error : Error} (isOpen : g.connection? id = some c)
    (decoded : c.decoder.decode g.services id receivedAt unit = (.error error, decoder, services))
    (stays : error.closesConnection = false) :
    (∃ c', (g.process id receivedAt unit).connection? id = some c' ∧ c'.deviceId = c.deviceId) ∧
      (g.process id receivedAt unit).deviceOf? id =
        services.sessions.device? id := by
  simp only [process, isOpen, decoded, fail, stays, Bool.false_eq_true, if_false]
  constructor
  · simp only [connection?, put, sendReplies, Table.get?_put, if_true]
    exact ⟨_, rfl, rfl⟩
  · rfl

theorem process_of_closing {error : Error} (isOpen : g.connection? id = some c)
    (decoded : c.decoder.decode g.services id receivedAt unit = (.error error, decoder, services))
    (closes : error.closesConnection = true) :
    (g.process id receivedAt unit).connection? id = none := by
  simp only [process, isOpen, decoded, fail, closes, if_true, connection?_close]

end

/-- Whether what came of a unit accords with the device of the session that it left: the last
device of its positions is that one, and a unit that failed has left the device that was there
before, unless it closes the connection. -/
def Accords (before after : Option DeviceId) : Except Error (List Position) → Prop
  | .ok positions => ∀ device ∈ latest? Position.device? positions, after = some device
  | .error error => error.closesConnection = true ∨ after = before

instance (before after : Option DeviceId) : DecidablePred (Accords before after)
  | .ok positions =>
    inferInstanceAs (Decidable (∀ device ∈ latest? Position.device? positions, _))
  | .error _ => inferInstanceAs (Decidable (_ ∨ _))

/-- Whether a unit settles: what comes of it accords with the session that it leaves. -/
def Settles (g : Gateway δ μ) (id : ConnectionId) (receivedAt : Instant) (unit : Bytes) : Prop :=
  ∀ c ∈ g.connection? id,
    let outcome := c.decoder.decode g.services id receivedAt unit
    Accords (g.deviceOf? id) (outcome.2.2.sessions.device? id) outcome.1

instance (g : Gateway δ μ) (id : ConnectionId) (receivedAt : Instant) (unit : Bytes) :
    Decidable (g.Settles id receivedAt unit) :=
  inferInstanceAs (Decidable (∀ c ∈ g.connection? id, Accords _ _ _))

theorem settles_of_open {g : Gateway δ μ} {id : ConnectionId} {receivedAt : Instant} {unit : Bytes}
    {c : Connection} {result : Except Error (List Position)} {decoder : Decoder}
    {services : Services δ μ} (isOpen : g.connection? id = some c)
    (decoded : c.decoder.decode g.services id receivedAt unit = (result, decoder, services)) :
    g.Settles id receivedAt unit ↔
      Accords (g.deviceOf? id) (services.sessions.device? id) result := by
  constructor
  · intro settles
    have accords := settles c isOpen
    rwa [decoded] at accords
  · intro accords c' isOpen'
    rw [isOpen] at isOpen'
    cases isOpen'
    rwa [decoded]

/-- A routed connection is routed after a unit if and only if that settles. -/
theorem routed_process_iff {g : Gateway δ μ} {id : ConnectionId} (routed : g.Routed id)
    (receivedAt : Instant) (unit : Bytes) :
    (g.process id receivedAt unit).Routed id ↔ g.Settles id receivedAt unit := by
  cases isOpen : g.connection? id with
  | none =>
    rw [process_of_closed isOpen]
    refine ⟨fun _ c isOpen' => ?_, fun _ => routed⟩
    rw [isOpen] at isOpen'
    cases isOpen'
  | some c =>
    have served := routed c isOpen
    -- A session is not lost, so where the unit left none there was none before.
    have remains (had : (g.services.sessions.device? id).isSome = true) :=
      c.decoder.keeps_decode (Sessions.lasting_isSome id) had receivedAt unit
    obtain ⟨⟨result, decoder, services⟩, decoded⟩ :
        ∃ outcome, c.decoder.decode g.services id receivedAt unit = outcome := ⟨_, rfl⟩
    rw [decoded] at remains
    rw [settles_of_open isOpen decoded]
    cases result with
    | ok positions =>
      obtain ⟨⟨c', isOpen', serves⟩, device⟩ := process_of_ok isOpen decoded
      rw [routed_of_open isOpen', serves, device, Accords]
      cases told : latest? Position.device? positions with
      | some last => simp [eq_comm]
      | none =>
        cases left : services.sessions.device? id with
        | some device => simp
        | none =>
          have before : g.deviceOf? id = none := by
            by_contra had
            have still := remains (Option.isSome_iff_ne_none.2 had)
            rw [left] at still
            cases still
          simp [served, before]
    | error error =>
      cases closes : error.closesConnection with
      | true =>
        have closed := process_of_closing isOpen decoded closes
        simp [routed_of_closed closed, Accords, closes]
      | false =>
        obtain ⟨⟨c', isOpen', serves⟩, device⟩ := process_of_error isOpen decoded closes
        rw [routed_of_open isOpen', serves, device, served]
        simp [Accords, closes, eq_comm]

/-! ### Units of all connections -/

/-- The units of a connection leave all other connections as they are, and the sessions of these. -/
theorem process_of_ne {g : Gateway δ μ} {id other : ConnectionId} (different : other ≠ id)
    (receivedAt : Instant) (unit : Bytes) :
    (g.process other receivedAt unit).connection? id = g.connection? id ∧
      (g.process other receivedAt unit).deviceOf? id = g.deviceOf? id := by
  cases isOpen : g.connection? other with
  | none =>
    rw [process_of_closed isOpen]
    exact ⟨rfl, rfl⟩
  | some c =>
    have kept : g.services.sessions.1.sessionOf? id = g.services.registry.sessionOf? id := rfl
    have same := c.decoder.keeps_decode (Sessions.lasting_of_ne different _) kept receivedAt unit
    obtain ⟨⟨result, decoder, services⟩, decoded⟩ :
        ∃ outcome, c.decoder.decode g.services other receivedAt unit = outcome := ⟨_, rfl⟩
    rw [decoded] at same
    have device : services.sessions.device? id = g.deviceOf? id :=
      congrArg (Option.map Session.deviceId) same
    cases result with
    | ok positions =>
      simp only [process, isOpen, decoded, deliver]
      constructor
      · simp only [connection?, connections_foldl_emit, put, sendReplies, Table.get?_put, different,
          if_false]
      · rw [deviceOf?_foldl_emit, ← device]
        rfl
    | error error =>
      cases closes : error.closesConnection with
      | true =>
        simp only [process, isOpen, decoded, fail, closes, if_true]
        rw [connection?_close_of_ne _ different, deviceOf?_close_of_ne _ different, ← device]
        constructor
        · simp only [connection?, put, sendReplies, Table.get?_put, different, if_false]
        · rfl
      | false =>
        simp only [process, isOpen, decoded, fail, closes, Bool.false_eq_true, if_false, ← device]
        constructor
        · simp only [connection?, put, sendReplies, Table.get?_put, different, if_false]
        · rfl

/-- A unit of a connection, and when it came. -/
structure Arrival where
  connection : ConnectionId
  receivedAt : Instant
  unit : Bytes

/-- Takes a unit that came. -/
def handle (g : Gateway δ μ) (a : Arrival) : Gateway δ μ :=
  g.process a.connection a.receivedAt a.unit

/-- Takes units in the order in which they came. -/
def handleAll (g : Gateway δ μ) (arrivals : List Arrival) : Gateway δ μ := arrivals.foldl handle g

/-- Whether all units of a connection settle, each when it comes. -/
def Settling (g : Gateway δ μ) (id : ConnectionId) : List Arrival → Prop
  | [] => True
  | a :: rest =>
    (a.connection = id → g.Settles id a.receivedAt a.unit) ∧ (g.handle a).Settling id rest

instance decidableSettling (g : Gateway δ μ) (id : ConnectionId) :
    (arrivals : List Arrival) → Decidable (g.Settling id arrivals)
  | [] => isTrue trivial
  | a :: rest =>
    have := decidableSettling (g.handle a) id rest
    inferInstanceAs (Decidable (_ ∧ _))

theorem routed_handle_iff {g : Gateway δ μ} {id : ConnectionId} (routed : g.Routed id)
    (a : Arrival) :
    (g.handle a).Routed id ↔ (a.connection = id → g.Settles id a.receivedAt a.unit) := by
  by_cases own : a.connection = id
  · rw [handle, own, routed_process_iff routed]
    exact ⟨fun settles _ => settles, fun settles => settles rfl⟩
  · obtain ⟨same, device⟩ := process_of_ne (g := g) own a.receivedAt a.unit
    refine ⟨fun _ same => absurd same own, fun _ c isOpen => ?_⟩
    rw [handle, same] at isOpen
    rw [handle, device]
    exact routed c isOpen

/-- Over units of any connections, some of which may fail, whatever directory and media store
answer: a routed connection that stays open is routed after every one of them if and only if all
of its own settle. -/
theorem routed_handleAll_iff {g : Gateway δ μ} {id : ConnectionId} (routed : g.Routed id)
    (arrivals : List Arrival) :
    (∀ count, (g.handleAll (arrivals.take count)).Routed id) ↔ g.Settling id arrivals := by
  induction arrivals generalizing g with
  | nil =>
    refine ⟨fun _ => trivial, fun _ count => ?_⟩
    rw [List.take_nil]
    exact routed
  | cons a rest ih =>
    constructor
    · intro always
      have first : (g.handle a).Routed id := always 1
      exact ⟨(routed_handle_iff routed a).1 first, (ih first).1 fun count => always (count + 1)⟩
    · rintro ⟨settles, later⟩ count
      have first := (routed_handle_iff routed a).2 settles
      cases count with
      | zero => exact routed
      | succ count => exact (ih first).2 later count

/-- A gateway that knows two terminals, and has one connection for packets. -/
def sampleGateway : Gateway (String → Lookup) MediaLibrary :=
  (start (fun _ => .default) Egts.Decoder.sampleShare.directory .empty).accept .egts .tcp
    ⟨0, .v4 [127, 0, 0, 1] 40000⟩ |>.2

theorem routed_sampleGateway : sampleGateway.Routed ⟨0⟩ := routed_accept .egts .tcp _ rfl

/-- A place before any terminal said who it is; one terminal, its place, and another with its own; a
terminal that is not known, with a place that is taken for one of the terminal before. -/
def sampleArrivals : List Arrival :=
  [Egts.Decoder.samplePlace, Egts.Decoder.sampleIdentity, Egts.Decoder.samplePlace,
    Egts.Decoder.identityOf 55 ++ Egts.Decoder.samplePlace,
    Egts.Decoder.identityOf 57 ++ Egts.Decoder.samplePlace].map
      fun data => ⟨⟨0⟩, ⟨0, 0⟩, Egts.Decoder.sampleUnit data⟩

theorem routed_sampleArrivals :
    (sampleGateway.handleAll sampleArrivals).deviceOf? ⟨0⟩ = some ⟨7⟩ ∧
      ∀ count, (sampleGateway.handleAll (sampleArrivals.take count)).Routed ⟨0⟩ := by
  have settling : sampleGateway.Settling ⟨0⟩ sampleArrivals := by decide +kernel
  exact ⟨by decide +kernel, (routed_handleAll_iff routed_sampleGateway sampleArrivals).2 settling⟩

/-- One unit may bind its connection to a device, report a place, and bind it to another device.
Then the connection serves the device of the place. -/
theorem not_routed_of_rebound : ¬ ∀ arrivals : List Arrival,
    (∀ a ∈ arrivals, a.connection = ⟨0⟩) → (sampleGateway.handleAll arrivals).Routed ⟨0⟩ := by
  intro claim
  let unit := Egts.Packet.build 1 Egts.Packet.typeAppData
    (Egts.Record.build 5 Egts.Record.teledataService Egts.Decoder.sampleIdentity ++
      Egts.Record.build 6 Egts.Record.teledataService Egts.Decoder.samplePlace ++
      Egts.Record.build 7 Egts.Record.teledataService (Egts.Decoder.identityOf 55))
  have routed := claim [⟨⟨0⟩, ⟨0, 0⟩, unit⟩] (by simp)
  revert routed
  decide +kernel

end Gateway
end TrackerGateway
