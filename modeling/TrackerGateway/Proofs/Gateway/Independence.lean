import Mathlib.Logic.Function.Basic
import TrackerGateway.Proofs.Egts.Attribution
import TrackerGateway.Proofs.Gateway.Alike

/-!
# Connections do not disturb each other

A `Hub` is the decoders of all connections at work on one registry, one directory and one media
store. What happens there may come in any order; `Hub.inputs` is what one connection brings to it.
Over a directory that never changes its answers and a store that never fails, a connection fares
as if nothing but its own inputs had happened (`Hub.related_takeAll`): so it is the same for it in
all orders (`Hub.own_of_inputs`).
-/

namespace TrackerGateway

namespace Hub

/-- What happens at a hub. -/
inductive Event where
  /-- A unit of a connection comes, at some time. -/
  | unit (connection : ConnectionId) (receivedAt : Instant) (octets : Bytes)
  | close (connection : ConnectionId)
  /-- A position is kept as the last of its device. -/
  | fix (position : Position)

/-- What a connection brings to a hub. -/
inductive Input where
  | unit (octets : Bytes)
  | close
  deriving DecidableEq

def Event.input? (connection : ConnectionId) : Event → Option Input
  | .unit sender _ octets => if sender = connection then some (.unit octets) else none
  | .close closed => if closed = connection then some .close else none
  | .fix _ => none

/-- What a connection brings while these events happen. -/
def inputs (connection : ConnectionId) (events : List Event) : List Input :=
  events.filterMap (Event.input? connection)

/-- An input as an event, at the beginning of time. -/
def Input.event (connection : ConnectionId) : Input → Event
  | .unit octets => .unit connection ⟨0, 0⟩ octets
  | .close => .close connection

/-- What a unit came to. -/
structure Outcome where
  replies : List Bytes
  result : Except Error (List Position)

/-- What a unit came to as far as it is the connection's own. -/
def Outcome.own (protocol : Protocol) (o : Outcome) : Outcome :=
  { o with result := protocol.own o.result }

end Hub

/-- The decoders of connections, the services that they share, and what the units of each connection
came to, first to last. -/
structure Hub (δ μ : Type) where
  decoders : ConnectionId → Decoder
  services : Services δ μ
  outcomes : ConnectionId → List Hub.Outcome

/-- The services without replies that wait. -/
def Services.quiet {δ μ : Type} (s : Services δ μ) : Services δ μ := { s with replies := [] }

namespace Hub

variable {δ μ : Type}

/-- The hub with another registry. -/
def withRegistry (h : Hub δ μ) (registry : Registry) : Hub δ μ :=
  { h with services := { h.services with registry } }

/-- What the units of a connection came to as far as it is its own. -/
def own (h : Hub δ μ) (connection : ConnectionId) : List Outcome :=
  (h.outcomes connection).map (Outcome.own (h.decoders connection).protocol)

variable [Directory δ] [MediaStore μ]

def take (h : Hub δ μ) : Event → Hub δ μ
  | .unit connection receivedAt octets =>
    let (result, decoder, services) :=
      (h.decoders connection).decode h.services.quiet connection receivedAt octets
    { decoders := Function.update h.decoders connection decoder
      services
      outcomes := Function.update h.outcomes connection
        (h.outcomes connection ++ [⟨services.replies, result⟩]) }
  | .close connection => h.withRegistry (h.services.registry.release connection).2
  | .fix position => h.withRegistry (h.services.registry.updateLast position)

def takeAll (h : Hub δ μ) (events : List Event) : Hub δ μ := events.foldl take h

/-- The hub after the inputs of one connection and nothing else. -/
def replay (h : Hub δ μ) (connection : ConnectionId) (inputs : List Input) : Hub δ μ :=
  h.takeAll (inputs.map (Input.event connection))

/-- Hubs that a connection cannot tell apart, and in which its units came to the same. -/
structure Related (numbers : Numbers) (connection : ConnectionId) (h h' : Hub δ μ) : Prop where
  decoder : h'.decoders connection = h.decoders connection
  services : h.services.quiet.Alike numbers connection h'.services.quiet
  own : h'.own connection = h.own connection

variable {numbers : Numbers} {connection : ConnectionId} {h h' : Hub δ μ}

/-! ### One event -/

theorem own_take_unit (h : Hub δ μ) (connection : ConnectionId) (receivedAt : Instant)
    (octets : Bytes) :
    let (result, _, services) :=
      (h.decoders connection).decode h.services.quiet connection receivedAt octets
    (h.take (.unit connection receivedAt octets)).own connection =
      h.own connection ++ [⟨services.replies, (h.decoders connection).protocol.own result⟩] := by
  have protocol :=
    (h.decoders connection).protocol_decode h.services.quiet connection receivedAt octets
  simp only [own, take, Function.update_self, List.map_append, protocol]
  rfl

/-- A unit of a connection comes to the same in both hubs. -/
theorem Related.unit (related : h.Related numbers connection h') (receivedAt receivedAt' : Instant)
    (octets : Bytes) :
    (h.take (.unit connection receivedAt octets)).Related numbers connection
      (h'.take (.unit connection receivedAt' octets)) := by
  obtain ⟨result, next, after⟩ := (h.decoders connection).alike_decode related.services receivedAt
    receivedAt' octets
  have own := own_take_unit h connection receivedAt octets
  have own' := own_take_unit h' connection receivedAt' octets
  rw [related.decoder] at own'
  refine ⟨?_, ?_, ?_⟩
  · simp only [take, Function.update_self, related.decoder]
    exact next
  · simp only [take, related.decoder]
    exact ⟨⟨after.left.sessions, after.left.media⟩, ⟨after.right.sessions, after.right.media⟩,
      after.session, rfl⟩
  · rw [own, own', related.own, result, after.replies]

theorem Related.close (related : h.Related numbers connection h') :
    (h.take (.close connection)).Related numbers connection (h'.take (.close connection)) where
  decoder := related.decoder
  services := by
    refine ⟨⟨related.services.left.sessions.release connection, related.services.left.media⟩,
      ⟨related.services.right.sessions.release connection, related.services.right.media⟩, ?_, rfl⟩
    simp only [take, withRegistry, Services.quiet, Registry.sessionOf?_release, if_true]
  own := related.own

/-- What other connections do is nothing to a connection. -/
theorem Related.take_of_other (related : h.Related numbers connection h') {e : Event}
    (other : e.input? connection = none) : (h.take e).Related numbers connection h' := by
  have sound := related.services.left
  cases e with
  | unit sender receivedAt octets =>
    have different : sender ≠ connection := by
      rintro rfl
      simp only [Event.input?, if_true] at other
      cases other
    have after := sound.decode (h.decoders sender) sender receivedAt octets
    refine ⟨?_, ?_, ?_⟩
    · rw [related.decoder]
      exact (Function.update_of_ne different.symm _ _).symm
    · have session : h.services.quiet.sessions.1.sessionOf? connection =
          h'.services.registry.sessionOf? connection := related.services.session.symm
      have kept := (h.decoders sender).keeps_decode (Sessions.lasting_of_ne different _) session
        receivedAt octets
      exact ⟨⟨after.sessions, after.media⟩, related.services.right, kept.symm, rfl⟩
    · rw [related.own]
      simp only [Hub.own, Hub.take, Function.update_of_ne different.symm]
  | close closed =>
    have different : closed ≠ connection := by
      rintro rfl
      simp only [Event.input?, if_true] at other
      cases other
    refine ⟨related.decoder, ?_, related.own⟩
    refine ⟨⟨sound.sessions.release closed, sound.media⟩, related.services.right, ?_, rfl⟩
    simp only [take, withRegistry, Services.quiet, Registry.sessionOf?_release, different, if_false]
    exact related.services.session
  | fix position =>
    refine ⟨related.decoder, ?_, related.own⟩
    refine ⟨⟨sound.sessions.updateLast position, sound.media⟩, related.services.right, ?_, rfl⟩
    simp only [take, withRegistry, Services.quiet, Registry.sessionOf?_updateLast]
    exact related.services.session

/-- After an event a connection fares as if only its own input had come. -/
theorem Related.take (related : h.Related numbers connection h') (e : Event) :
    (h.take e).Related numbers connection (h'.replay connection (e.input? connection).toList) := by
  cases brought : e.input? connection with
  | none => exact related.take_of_other brought
  | some input =>
    cases e with
    | unit sender receivedAt octets =>
      obtain ⟨rfl, same⟩ := Option.ite_none_right_eq_some.1 brought
      cases same
      exact related.unit receivedAt ⟨0, 0⟩ octets
    | close closed =>
      obtain ⟨rfl, same⟩ := Option.ite_none_right_eq_some.1 brought
      cases same
      exact related.close
    | fix position => cases brought

/-! ### All events -/

theorem replay_append (h : Hub δ μ) (connection : ConnectionId) (first second : List Input) :
    h.replay connection (first ++ second) =
        (h.replay connection first).replay connection second := by
  rw [replay, List.map_append]
  exact List.foldl_append

/-- A connection fares as if nothing but its own inputs had happened. -/
theorem related_takeAll (related : h.Related numbers connection h') (events : List Event) :
    (h.takeAll events).Related numbers connection
      (h'.replay connection (inputs connection events)) := by
  induction events generalizing h h' with
  | nil => exact related
  | cons e rest ih =>
    rw [inputs, filterMap_cons_toList, replay_append]
    exact ih (related.take e)

/-- Over a directory that never changes its answers and a store that never fails, it makes no
difference to a connection in which order others send and close, and what they send: its units get
the same replies and come to the same, and it is left with the same session and the same
commands. -/
theorem agree_of_inputs {h : Hub δ μ} {given : String → Option DeviceId}
    (gives : Directory.Gives h.services.directory given)
    (reliable : MediaStore.Reliable h.services.media) {events events' : List Event}
    {connection : ConnectionId} (same : inputs connection events' = inputs connection events) :
    (h.takeAll events').own connection = (h.takeAll events).own connection ∧
      (h.takeAll events').services.registry.sessionOf? connection =
        (h.takeAll events).services.registry.sessionOf? connection ∧
      ∀ command, ((h.takeAll events').decoders connection).encoder.encode command =
        ((h.takeAll events).decoders connection).encoder.encode command := by
  obtain ⟨numbers, steady⟩ : ∃ numbers, h.services.quiet.sessions.Steady numbers :=
    Sessions.exists_steady gives
  have sound : h.services.quiet.Sound numbers := ⟨steady, reliable⟩
  have start : h.Related numbers connection h := ⟨rfl, sound.alike connection, rfl⟩
  have left := related_takeAll start events
  have right := related_takeAll start events'
  rw [same] at right
  refine ⟨right.own.symm.trans left.own,
    right.services.session.symm.trans left.services.session, ?_⟩
  intro command
  rw [← right.decoder, left.decoder]

/-- The numbers of two terminals and of an object. -/
def sampleGiven (uniqueId : String) : Option DeviceId :=
  if uniqueId = "3000" then some ⟨8⟩ else Egts.Decoder.sampleNumber? uniqueId

/-- A terminal on the first connection, an object on the next two, and a watch. -/
def sampleHub : Hub (String → Lookup) MediaLibrary where
  decoders connection :=
    if connection = ⟨4⟩ then .watch .unknown
    else .egts (.start (if connection = ⟨1⟩ then .byConnection else .byIdentifier))
  services :=
    { registry := .empty
      directory uniqueId := (sampleGiven uniqueId).elim .unknown .known
      media := .empty
      replies := [] }
  outcomes _ := []

/-- The last fix of the terminal. -/
def sampleFix : Position := { Position.blank "egts" with deviceId := ⟨42⟩, fixTime := some ⟨0, 0⟩ }

/-- A frame of a watch that has the number of the terminal. -/
def sampleFrame (content : String) : Bytes :=
  s!"[3G*123456789012345*{content}]".toUTF8.toList

/-- The terminal says who it is and where; the object is on two connections; the watch is there,
closes and comes again with a heart rate. -/
def sampleEvents : List Event :=
  [.unit ⟨1⟩ ⟨0, 0⟩ (Egts.Decoder.sampleUnit Egts.Decoder.sampleIdentity),
    .unit ⟨1⟩ ⟨1, 0⟩ (Egts.Decoder.sampleUnit Egts.Decoder.samplePlace),
    .fix sampleFix,
    .unit ⟨2⟩ ⟨2, 0⟩ Egts.Decoder.sampleReports,
    .unit ⟨3⟩ ⟨3, 0⟩ Egts.Decoder.sampleReports,
    .unit ⟨4⟩ ⟨4, 0⟩ (sampleFrame "0002*LK"),
    .close ⟨4⟩,
    .unit ⟨4⟩ ⟨5, 0⟩ (sampleFrame "0008*PULSE,60")]

/-- The same in another order: the watch comes first, and the last fix is not kept before it is
done. -/
def sampleReordering : List Event :=
  [.unit ⟨4⟩ ⟨0, 0⟩ (sampleFrame "0002*LK"),
    .unit ⟨3⟩ ⟨1, 0⟩ Egts.Decoder.sampleReports,
    .unit ⟨1⟩ ⟨2, 0⟩ (Egts.Decoder.sampleUnit Egts.Decoder.sampleIdentity),
    .close ⟨4⟩,
    .unit ⟨4⟩ ⟨3, 0⟩ (sampleFrame "0008*PULSE,60"),
    .fix sampleFix,
    .unit ⟨2⟩ ⟨4, 0⟩ Egts.Decoder.sampleReports,
    .unit ⟨1⟩ ⟨5, 0⟩ (Egts.Decoder.sampleUnit Egts.Decoder.samplePlace)]

theorem agree_of_sampleReordering :
    (∀ connection, inputs connection sampleReordering = inputs connection sampleEvents) ∧
      (∀ connection,
        (sampleHub.takeAll sampleReordering).own connection =
            (sampleHub.takeAll sampleEvents).own connection ∧
          (sampleHub.takeAll sampleReordering).services.registry.sessionOf? connection =
            (sampleHub.takeAll sampleEvents).services.registry.sessionOf? connection ∧
          ∀ command,
            ((sampleHub.takeAll sampleReordering).decoders connection).encoder.encode command =
              ((sampleHub.takeAll sampleEvents).decoders connection).encoder.encode command) ∧
      (sampleHub.takeAll sampleReordering).services.registry.sessionOf? ⟨4⟩ =
        some ⟨⟨42⟩, "123456789012345", .connection ⟨4⟩⟩ := by
  have same (connection : ConnectionId) :
      inputs connection sampleReordering = inputs connection sampleEvents := by
    by_cases first : connection = ⟨1⟩
    · subst first
      rfl
    by_cases second : connection = ⟨2⟩
    · subst second
      rfl
    by_cases third : connection = ⟨3⟩
    · subst third
      rfl
    by_cases fourth : connection = ⟨4⟩
    · subst fourth
      rfl
    · simp only [inputs, sampleReordering, sampleEvents, List.filterMap_cons, List.filterMap_nil,
        Event.input?, Ne.symm first, Ne.symm second, Ne.symm third, Ne.symm fourth, if_false]
  have gives : Directory.Gives sampleHub.services.directory sampleGiven :=
    Directory.gives_answers sampleGiven
  refine ⟨same, fun connection => ?_, by decide +kernel⟩
  exact agree_of_inputs gives (MediaStore.reliable_library _) (same connection)

end Hub
end TrackerGateway
