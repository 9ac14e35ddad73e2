import TrackerGateway.Proofs.Session.Calls

/-!
# The events of a registry as a log of its sessions

Who hears all events can keep a roster of the sessions (`Roster.hear`). A call changes the
sessions of connections just as a roster changes that hears what the call logs, and those of
identifiers too unless it evicts one; and it logs a session exactly if it makes one
(`Sessions.logs_call`). So the roster of all that was ever logged agrees with the registry at any
time (`Sessions.ofEvents_callAll`).
-/

namespace TrackerGateway

/-- The session that an event says was made. -/
def SessionEvent.session? : SessionEvent → Option Session
  | .resolved key deviceId uniqueId => some ⟨deviceId, uniqueId, key⟩
  | _ => none

/-- The sessions as they are known from events. -/
structure Roster where
  connections : Table ConnectionId Session
  identifiers : Table String Session

namespace Roster

def hear (roster : Roster) : SessionEvent → Roster
  | .resolved (.connection id) deviceId uniqueId =>
    { roster with
      connections := Table.put roster.connections id ⟨deviceId, uniqueId, .connection id⟩ }
  | .resolved (.identifier name) deviceId uniqueId =>
    { roster with
      identifiers := Table.put roster.identifiers name ⟨deviceId, uniqueId, .identifier name⟩ }
  | .unknown _ _ => roster
  | .released id => { roster with connections := Table.erase roster.connections id }

/-- A roster once more events were heard, first to last. -/
def hearAll (roster : Roster) (events : List SessionEvent) : Roster := events.foldl hear roster

/-- The roster of who has heard these events only. -/
def ofEvents (events : List SessionEvent) : Roster := hearAll ⟨[], []⟩ events

def size (roster : Roster) : Nat := roster.connections.length + roster.identifiers.length

theorem hearAll_append (roster : Roster) (earlier later : List SessionEvent) :
    roster.hearAll (earlier ++ later) = (roster.hearAll earlier).hearAll later :=
  List.foldl_append

theorem connections_hear {roster other : Roster} (same : roster.connections = other.connections)
    (event : SessionEvent) : (roster.hear event).connections = (other.hear event).connections := by
  cases event with
  | resolved key deviceId uniqueId =>
    cases key with
    | connection id => exact congrArg (Table.put · id _) same
    | identifier name => exact same
  | unknown uniqueId connection => exact same
  | released id => exact congrArg (Table.erase · id) same

/-- What is heard of connections does not depend on identifiers. -/
theorem connections_hearAll {roster other : Roster} (same : roster.connections = other.connections)
    (events : List SessionEvent) :
    (roster.hearAll events).connections = (other.hearAll events).connections := by
  induction events generalizing roster other with
  | nil => exact same
  | cons event events ih => exact ih (connections_hear same event)

end Roster

/-! ### Sessions and their keys -/

namespace Registry

/-- The session under a key. -/
def held? (r : Registry) : SessionKey → Option Session
  | .connection id => r.sessionOf? id
  | .identifier name => Table.get? r.identifiers name

/-- Whether each session is held under its own key. -/
def Keyed (r : Registry) : Prop :=
  ∀ key session, r.held? key = some session → session.key = key

theorem keyed_empty : Keyed .empty := by
  rintro (id | name) session ⟨⟩

/-- Whether a session is held that was not held before. -/
def Made (before after : Registry) (session : Session) : Prop :=
  after.held? session.key = some session ∧ before.held? session.key ≠ some session

theorem held?_congr {r r' : Registry} (connections : r'.connections = r.connections)
    (identifiers : r'.identifiers = r.identifiers) (key : SessionKey) :
    r'.held? key = r.held? key := by
  cases key with
  | connection id => exact congrArg (Table.get? · id) connections
  | identifier name => exact congrArg (Table.get? · name) identifiers

/-- The key under which a registry keeps the session for an identifier. -/
def keyOf : SessionMode → ConnectionId → String → SessionKey
  | .byConnection, connection, _ => .connection connection
  | .byIdentifier, _, uniqueId => .identifier uniqueId

theorem held?_bind (r : Registry) (mode : SessionMode) (connection : ConnectionId)
    (uniqueId : String) (id : DeviceId) (key : SessionKey) :
    (r.bind mode connection uniqueId id).2.held? key =
      if keyOf mode connection uniqueId = key then some (r.bind mode connection uniqueId id).1
      else r.held? key := by
  cases mode <;> cases key <;>
    simp [bind, bindConnection, bindIdentifier, held?, keyOf, log, sessionOf?, Table.get?_put]

theorem held?_of_kept? {r : Registry} {mode : SessionMode} {connection : ConnectionId}
    {uniqueId : String} {session : Session}
    (kept : r.kept? mode connection uniqueId = some session) :
    r.held? (keyOf mode connection uniqueId) = some session := by
  cases mode with
  | byConnection => exact (Option.filter_eq_some_iff.1 kept).1
  | byIdentifier => exact kept

theorem key_bind (r : Registry) (mode : SessionMode) (connection : ConnectionId) (uniqueId : String)
    (id : DeviceId) :
    (r.bind mode connection uniqueId id).1.key = keyOf mode connection uniqueId := by
  cases mode <;> rfl

/-- A session that is new takes the place of none, or of one for another identifier. -/
theorem held?_ne_of_kept? {r : Registry} {mode : SessionMode} {connection : ConnectionId}
    {uniqueId : String} (new : r.kept? mode connection uniqueId = none) (r' : Registry)
    (id : DeviceId) :
    r.held? (keyOf mode connection uniqueId) ≠ some (r'.bind mode connection uniqueId id).1 := by
  intro held
  cases mode with
  | byConnection =>
    rw [kept?, show r.sessionOf? connection = some _ from held] at new
    simp [bind, bindConnection] at new
  | byIdentifier =>
    rw [kept?, show Table.get? r.identifiers uniqueId = some _ from held] at new
    cases new

theorem held?_of_release {r : Registry} {connection : ConnectionId} {key : SessionKey}
    {session : Session} (held : (r.release connection).2.held? key = some session) :
    r.held? key = some session := by
  unfold release at held
  split at held
  · cases key with
    | identifier name => exact held
    | connection id =>
      simp only [held?, log, sessionOf?, Table.get?_erase] at held
      split at held
      · cases held
      · exact held
  · exact held

theorem held?_of_evict {r : Registry} {uniqueId : String} {key : SessionKey} {session : Session}
    (held : (r.evict uniqueId).2.held? key = some session) : r.held? key = some session := by
  cases key with
  | connection id => exact held
  | identifier name =>
    simp only [evict, held?, Table.get?_erase] at held
    split at held
    · cases held
    · exact held

theorem held?_updateLast (r : Registry) (position : Position) (key : SessionKey) :
    (r.updateLast position).held? key = r.held? key := by
  unfold updateLast
  split
  · exact held?_congr rfl rfl key
  · rfl

/-- A registry that holds fewer sessions holds them under their keys. -/
theorem Keyed.of_fewer {r r' : Registry} (keyed : r.Keyed)
    (fewer : ∀ {key session}, r'.held? key = some session → r.held? key = some session) :
    r'.Keyed :=
  fun key session held => keyed key session (fewer held)

variable {δ : Type} [Directory δ] {r r' : Registry} {directory directory' : δ}

theorem Identified.held?_eq {uniqueId : String} {asker : Option ConnectionId}
    {result : Except Error (Option DeviceId)}
    (h : Identified r directory uniqueId asker (result, r', directory')) (key : SessionKey) :
    r'.held? key = r.held? key :=
  held?_congr h.connections_eq h.identifiers_eq key

theorem Keyed.resolve (keyed : r.Keyed) (directory : δ) (mode : SessionMode)
    (connection : ConnectionId) (uniqueId : String) :
    (r.resolve directory mode connection (some uniqueId)).2.1.Keyed := by
  have resolved := r.resolved directory mode connection uniqueId
  generalize r.resolve directory mode connection (some uniqueId) = outcome at resolved ⊢
  intro key session held
  cases resolved with
  | kept => exact keyed key session held
  | unknown _ _ _ identified | failed _ _ _ _ identified =>
    rw [identified.held?_eq] at held
    exact keyed key session held
  | bound id between _ _ identified =>
    rw [held?_bind] at held
    split at held
    · rename_i same
      cases held
      rw [key_bind, same]
    · rw [identified.held?_eq] at held
      exact keyed key session held

/-- The session that is found for a unit is held. -/
theorem held?_of_resolve (keyed : r.Keyed) {mode : SessionMode} {connection : ConnectionId}
    {identifier : Option String} {session : Session}
    (found : (r.resolve directory mode connection identifier).1 = .ok (some session)) :
    (r.resolve directory mode connection identifier).2.1.held? session.key = some session := by
  cases identifier with
  | none =>
    cases mode with
    | byConnection =>
      have held : r.held? (.connection connection) = some session := Except.ok.inj found
      rw [keyed _ session held]
      exact held
    | byIdentifier => cases found
  | some uniqueId =>
    have resolved := r.resolved directory mode connection uniqueId
    generalize r.resolve directory mode connection (some uniqueId) = outcome at found resolved ⊢
    cases resolved with
    | kept _ kept =>
      cases found
      have held := held?_of_kept? kept
      rw [keyed _ session held]
      exact held
    | bound id between =>
      cases found
      rw [key_bind, held?_bind, if_pos rfl]
    | unknown | failed => cases found

/-! ### What is logged -/

/-- The roster of the sessions that a registry holds. -/
def roster (r : Registry) : Roster := ⟨r.connections, r.identifiers⟩

/-- Whether these events are what is logged as a registry becomes another: they say what becomes
of the sessions of connections, and which session, if any, is made. -/
structure Logs (r r' : Registry) (fresh : List SessionEvent) : Prop where
  events : r'.events = r.events ++ fresh
  connections : (r.roster.hearAll fresh).connections = r'.connections
  made : ∃ session?, fresh.filterMap SessionEvent.session? = Option.toList session? ∧
    ∀ session, session? = some session ↔ r.Made r' session

theorem not_made {r r' : Registry} (fewer : ∀ {key session}, r'.held? key = some session →
    r.held? key = some session) (session : Session) : none = some session ↔ r.Made r' session :=
  ⟨nofun, fun made => absurd (fewer made.1) made.2⟩

theorem logs_nothing {r r' : Registry} (events : r'.events = r.events)
    (connections : r'.connections = r.connections)
    (fewer : ∀ {key session}, r'.held? key = some session → r.held? key = some session) :
    r.Logs r' [] :=
  ⟨events.trans (List.append_nil _).symm, connections.symm, none, rfl, not_made fewer⟩

theorem Identified.exists_logged {uniqueId : String} {asker : Option ConnectionId}
    {result : Except Error (Option DeviceId)}
    (h : Identified r directory uniqueId asker (result, r', directory')) :
    ∃ fresh, r'.events = r.events ++ fresh ∧ fresh.filterMap SessionEvent.session? = [] ∧
      ∀ roster : Roster, roster.hearAll fresh = roster := by
  cases h with
  | remembered | known | failed => exact ⟨[], (List.append_nil _).symm, rfl, fun _ => rfl⟩
  | unknown => exact ⟨[.unknown uniqueId asker], rfl, rfl, fun _ => rfl⟩

theorem Identified.roster_eq {uniqueId : String} {asker : Option ConnectionId}
    {result : Except Error (Option DeviceId)}
    (h : Identified r directory uniqueId asker (result, r', directory')) :
    r'.roster = r.roster := by
  rw [roster, h.connections_eq, h.identifiers_eq]
  rfl

theorem events_bind (r : Registry) (mode : SessionMode) (connection : ConnectionId)
    (uniqueId : String) (id : DeviceId) :
    (r.bind mode connection uniqueId id).2.events =
      r.events ++ [.resolved (keyOf mode connection uniqueId) id uniqueId] := by
  cases mode <;> rfl

theorem roster_bind (r : Registry) (mode : SessionMode) (connection : ConnectionId)
    (uniqueId : String) (id : DeviceId) :
    (r.bind mode connection uniqueId id).2.roster =
      r.roster.hear (.resolved (keyOf mode connection uniqueId) id uniqueId) := by
  cases mode <;> rfl

/-- Finding the session for an identifier logs it exactly if it is made, and else at most that the
identifier is unknown. -/
theorem logs_resolve (r : Registry) (directory : δ) (mode : SessionMode) (connection : ConnectionId)
    (uniqueId : String) :
    let after := (r.resolve directory mode connection (some uniqueId)).2.1
    ∃ fresh, r.Logs after fresh ∧ r.roster.hearAll fresh = after.roster := by
  have resolved := r.resolved directory mode connection uniqueId
  generalize r.resolve directory mode connection (some uniqueId) = outcome at resolved ⊢
  cases resolved with
  | kept => exact ⟨[], logs_nothing rfl rfl id, rfl⟩
  | unknown _ _ _ identified | failed _ _ _ _ identified =>
    obtain ⟨fresh, events, silent, deaf⟩ := identified.exists_logged
    have same : r.roster.hearAll fresh = _ := (deaf r.roster).trans identified.roster_eq.symm
    refine ⟨fresh, ⟨events, congrArg Roster.connections same, none, silent,
      not_made fun held => ?_⟩, same⟩
    rwa [← identified.held?_eq]
  | bound id between _ new identified =>
    obtain ⟨fresh, events, silent, deaf⟩ := identified.exists_logged
    let key := keyOf mode connection uniqueId
    let session := (between.bind mode connection uniqueId id).1
    have own : session.key = key := between.key_bind mode connection uniqueId id
    have announced : SessionEvent.session? (.resolved key id uniqueId) = some session := by
      cases mode <;> rfl
    have same : r.roster.hearAll (fresh ++ [.resolved key id uniqueId]) =
        (between.bind mode connection uniqueId id).2.roster := by
      rw [Roster.hearAll_append, deaf, roster_bind, identified.roster_eq]
      rfl
    refine ⟨fresh ++ [.resolved key id uniqueId],
      ⟨?_, congrArg Roster.connections same, some session, ?_, fun other => ⟨?_, ?_⟩⟩, same⟩
    · rw [events_bind, events, List.append_assoc]
    · rw [List.filterMap_append, silent]
      simp [announced]
    · rintro ⟨⟩
      refine ⟨?_, ?_⟩
      · rw [own, held?_bind, if_pos rfl]
      · rw [own]
        exact held?_ne_of_kept? new between id
    · rintro ⟨held, before⟩
      rw [held?_bind] at held
      split at held
      · exact held
      · exact absurd (identified.held?_eq _ ▸ held) before

theorem logs_release (r : Registry) (connection : ConnectionId) :
    let after := (r.release connection).2
    ∃ fresh, r.Logs after fresh ∧ r.roster.hearAll fresh = after.roster := by
  have fewer : ∀ session, none = some session ↔ r.Made (r.release connection).2 session :=
    not_made held?_of_release
  unfold release at fewer ⊢
  split
  · rename_i bound
    rw [if_pos bound] at fewer
    exact ⟨[.released connection], ⟨rfl, rfl, none, rfl, fewer⟩, rfl⟩
  · exact ⟨[], logs_nothing rfl rfl id, rfl⟩

theorem logs_updateLast (r : Registry) (position : Position) :
    let after := r.updateLast position
    ∃ fresh, r.Logs after fresh ∧ r.roster.hearAll fresh = after.roster := by
  unfold updateLast
  split
  · exact ⟨[], logs_nothing rfl rfl fun held => held?_congr rfl rfl _ ▸ held, rfl⟩
  · exact ⟨[], logs_nothing rfl rfl id, rfl⟩

end Registry

/-! ### Runs -/

namespace Sessions

variable {δ : Type} [Directory δ]

/-- Each call logs what it does. Only what becomes of the session of an identifier that is evicted
is not logged. -/
theorem logs_call (s : Sessions δ) (c : Call δ) :
    ∃ fresh, s.1.Logs (s.call c).2.1 fresh ∧
      ((∀ uniqueId, c.operation ≠ .evict uniqueId) →
        s.1.roster.hearAll fresh = (s.call c).2.1.roster) := by
  obtain ⟨change, operation⟩ := c
  cases operation with
  | resolve mode connection identifier =>
    cases identifier with
    | none => cases mode <;> exact ⟨[], Registry.logs_nothing rfl rfl id, fun _ => rfl⟩
    | some uniqueId =>
      obtain ⟨fresh, logs, same⟩ := s.1.logs_resolve (change s.2) mode connection uniqueId
      exact ⟨fresh, logs, fun _ => same⟩
  | release connection =>
    obtain ⟨fresh, logs, same⟩ := s.1.logs_release connection
    exact ⟨fresh, logs, fun _ => same⟩
  | evict uniqueId =>
    refine ⟨[], Registry.logs_nothing rfl rfl Registry.held?_of_evict, fun kept => ?_⟩
    exact absurd rfl (kept uniqueId)
  | updateLast position =>
    obtain ⟨fresh, logs, same⟩ := s.1.logs_updateLast position
    exact ⟨fresh, logs, fun _ => same⟩

theorem keyed_call {s : Sessions δ} (keyed : s.1.Keyed) (c : Call δ) :
    (s.call c).2.1.Keyed := by
  obtain ⟨change, operation⟩ := c
  cases operation with
  | resolve mode connection identifier =>
    cases identifier with
    | none => cases mode <;> exact keyed
    | some uniqueId => exact keyed.resolve (change s.2) mode connection uniqueId
  | release connection => exact keyed.of_fewer Registry.held?_of_release
  | evict uniqueId => exact keyed.of_fewer Registry.held?_of_evict
  | updateLast position =>
    exact keyed.of_fewer fun held => by rwa [← Registry.held?_updateLast]

/-- The session that a call returns is held. -/
theorem held?_of_call {s : Sessions δ} (keyed : s.1.Keyed) {c : Call δ} {session : Session}
    (returned : (s.call c).1 = .session (some session)) :
    (s.call c).2.1.held? session.key = some session := by
  obtain ⟨change, operation⟩ := c
  cases operation with
  | resolve mode connection identifier =>
    apply Registry.held?_of_resolve keyed
    change Response.ofResult (s.1.resolve (change s.2) mode connection identifier).1 = _ at returned
    cases result : (s.1.resolve (change s.2) mode connection identifier).1 with
    | error error =>
      rw [result] at returned
      cases returned
    | ok found =>
      rw [result] at returned
      cases returned
      rfl
  | release connection | evict uniqueId | updateLast position => cases returned

/-- After any calls of a new registry, whose directory may fail and may change between them, the
roster of all that was logged has the session of every connection. What the next call logs,
whichever it is, has a session if and only if one is held then that was not held before, as each
session that is returned is held. If no identifier was evicted, the roster also has the session of
every identifier, and so as many sessions as are active. -/
theorem ofEvents_callAll (directory : δ) (calls : List (Call δ)) :
    let s := (callAll (.empty, directory) calls).2
    let roster := Roster.ofEvents s.1.events
    (∀ connection, Table.get? roster.connections connection = s.1.sessionOf? connection) ∧
      (∀ next : Call δ, ∃ fresh session?, (s.call next).2.1.events = s.1.events ++ fresh ∧
        fresh.filterMap SessionEvent.session? = Option.toList session? ∧
        (∀ session, session? = some session ↔ s.1.Made (s.call next).2.1 session) ∧
        ∀ session, (s.call next).1 = .session (some session) →
          (s.call next).2.1.held? session.key = some session) ∧
      ((∀ c ∈ calls, ∀ uniqueId, c.operation ≠ .evict uniqueId) →
        (∀ uniqueId, Table.get? roster.identifiers uniqueId =
          Table.get? s.1.identifiers uniqueId) ∧ s.1.activeCount = roster.size) := by
  intro s roster
  refine ⟨?_, ?_, ?_⟩
  · have connections : roster.connections = s.1.connections := by
      refine callAll_induction (fun s => (Roster.ofEvents s.1.events).connections = s.1.connections)
        rfl calls fun s c _ same => ?_
      obtain ⟨fresh, logs, -⟩ := s.logs_call c
      rw [logs.events, Roster.ofEvents, Roster.hearAll_append, ← logs.connections]
      exact Roster.connections_hearAll same fresh
    intro connection
    rw [connections]
    rfl
  · intro next
    obtain ⟨fresh, logs, -⟩ := s.logs_call next
    obtain ⟨session?, logged, made⟩ := logs.made
    have keyed : s.1.Keyed := callAll_induction (·.1.Keyed) Registry.keyed_empty calls
      fun s c _ keyed => keyed_call keyed c
    exact ⟨fresh, session?, logs.events, logged, made, fun session => held?_of_call keyed⟩
  · intro spared
    have same : roster = s.1.roster := by
      refine callAll_induction (fun s => Roster.ofEvents s.1.events = s.1.roster) rfl calls
        fun s c member same => ?_
      obtain ⟨fresh, logs, heard⟩ := s.logs_call c
      rw [logs.events, Roster.ofEvents, Roster.hearAll_append, ← heard (spared c member), ← same]
      rfl
    rw [same]
    exact ⟨fun _ => rfl, rfl⟩

/-- An identifier is at first not known. Then one connection turns from one device to another,
while a second one comes and goes, and a third has sessions by identifier. -/
def sampleTurns : List (Call (String → Lookup)) :=
  [⟨id, .resolve .byConnection ⟨1⟩ (some "7")⟩,
    ⟨fun _ _ => .known ⟨5⟩, .resolve .byConnection ⟨1⟩ (some "7")⟩,
    ⟨fun _ _ => .known ⟨6⟩, .resolve .byConnection ⟨2⟩ (some "8")⟩,
    ⟨id, .resolve .byConnection ⟨1⟩ (some "8")⟩,
    ⟨id, .resolve .byIdentifier ⟨3⟩ (some "8")⟩,
    ⟨id, .release ⟨2⟩⟩]

theorem ofEvents_of_sampleTurns :
    let s := (callAll (.empty, fun _ => .unknown) sampleTurns).2
    let roster := Roster.ofEvents s.1.events
    s.1.events =
        [.unknown "7" (some ⟨1⟩), .resolved (.connection ⟨1⟩) ⟨5⟩ "7",
          .resolved (.connection ⟨2⟩) ⟨6⟩ "8", .resolved (.connection ⟨1⟩) ⟨6⟩ "8",
          .resolved (.identifier "8") ⟨6⟩ "8", .released ⟨2⟩] ∧
      Table.get? roster.connections ⟨1⟩ = some ⟨⟨6⟩, "8", .connection ⟨1⟩⟩ ∧
      Table.get? roster.identifiers "8" = some ⟨⟨6⟩, "8", .identifier "8"⟩ ∧ roster.size = 2 := by
  have spared : ∀ c ∈ sampleTurns, ∀ uniqueId, c.operation ≠ .evict uniqueId := by
    simp [sampleTurns]
  obtain ⟨connections, -, rest⟩ := ofEvents_callAll (fun _ => .unknown) sampleTurns
  obtain ⟨identifiers, count⟩ := rest spared
  refine ⟨rfl, ?_, ?_, ?_⟩
  · exact (connections ⟨1⟩).trans rfl
  · exact (identifiers "8").trans rfl
  · exact count.symm.trans rfl

end Sessions
end TrackerGateway
