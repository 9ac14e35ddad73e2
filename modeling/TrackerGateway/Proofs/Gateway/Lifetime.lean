import TrackerGateway.Proofs.Gateway.Steps
import TrackerGateway.Proofs.Session.Log

/-!
# How long the sessions of connections live

A gateway numbers its connections, so one that has closed does not come back (`Gateway.Past`).
Only the units of a connection make sessions for it, and it is open when they come; closing it
releases its session. So a connection that has a session is open, however opening, units and
closing follow each other (`Gateway.sessions_of_run`).
-/

namespace TrackerGateway

theorem Sessions.lasting_keyed {δ : Type} [Directory δ] (connection : ConnectionId) :
    Lasting connection fun s : Sessions δ => s.1.Keyed :=
  fun s mode uniqueId keyed => keyed.resolve s.2 mode connection uniqueId

namespace Gateway

variable {δ μ : Type}

/-- Whether the connections of a gateway, their sessions and their numbers belong together. -/
structure Tidy (g : Gateway δ μ) : Prop where
  keyed : g.services.registry.Keyed
  sessions : ∀ id, (g.services.registry.sessionOf? id).isSome = true → id ∈ Table.keys g.connections
  numbered : ∀ id ∈ Table.keys g.connections, id.value < g.nextConnection
  distinct : (Table.keys g.connections).Nodup
  counted : g.stats.opened = g.stats.closed + (Table.keys g.connections).length

theorem tidy_start (options : Protocol → ProtocolOptions) (directory : δ) (media : μ) :
    (start options directory media).Tidy where
  keyed := Registry.keyed_empty
  sessions := by rintro id ⟨⟩
  numbered := by rintro id ⟨⟩
  distinct := List.nodup_nil
  counted := rfl

theorem keys_accept (g : Gateway δ μ) (protocol : Protocol) (transport : Transport)
    (endpoint : Endpoint) (new : ⟨g.nextConnection⟩ ∉ Table.keys g.connections) :
    Table.keys (g.accept protocol transport endpoint).2.connections =
      Table.keys g.connections ++ [⟨g.nextConnection⟩] := by
  rw [accept, put, Table.keys_put, if_neg]
  rwa [Table.holds_iff_mem_keys]

theorem Tidy.accept {g : Gateway δ μ} (tidy : g.Tidy) (protocol : Protocol) (transport : Transport)
    (endpoint : Endpoint) : (g.accept protocol transport endpoint).2.Tidy := by
  have new : ⟨g.nextConnection⟩ ∉ Table.keys g.connections := fun known =>
    Nat.lt_irrefl _ (tidy.numbered _ known)
  have keys := g.keys_accept protocol transport endpoint new
  refine ⟨tidy.keyed, ?_, ?_, ?_, ?_⟩
  · intro id bound
    rw [keys]
    exact List.mem_append_left _ (tidy.sessions id bound)
  · intro id isOpen
    rw [keys, List.mem_append, List.mem_singleton] at isOpen
    rcases isOpen with before | rfl
    · exact Nat.lt_succ_of_lt (tidy.numbered id before)
    · exact Nat.lt_succ_self _
  · rw [keys, List.nodup_append]
    refine ⟨tidy.distinct, List.pairwise_singleton _ _, fun id before other last same => new ?_⟩
    rw [← List.mem_singleton.1 last, ← same]
    exact before
  · show g.stats.opened + 1 = g.stats.closed + _
    rw [keys, List.length_append, List.length_singleton, tidy.counted, Nat.add_assoc]

theorem close_of_closed {g : Gateway δ μ} {id : ConnectionId}
    (closed : id ∉ Table.keys g.connections) : g.close id = g := by
  rw [close, if_neg]
  rwa [Table.holds_iff_mem_keys]

theorem keys_close (g : Gateway δ μ) (id : ConnectionId) :
    Table.keys (g.close id).connections = (Table.keys g.connections).filter fun other =>
      other ≠ id := by
  by_cases isOpen : id ∈ Table.keys g.connections
  · rw [close, if_pos ((Table.holds_iff_mem_keys _ _).2 isOpen)]
    exact Table.keys_erase g.connections id
  · rw [close_of_closed isOpen, List.filter_eq_self.2]
    exact fun other member => decide_eq_true fun same => isOpen (same ▸ member)

theorem mem_keys_close {g : Gateway δ μ} {id other : ConnectionId} :
    other ∈ Table.keys (g.close id).connections ↔ other ∈ Table.keys g.connections ∧
        other ≠ id := by
  rw [keys_close, List.mem_filter, decide_eq_true_iff]

theorem nextConnection_close (g : Gateway δ μ) (id : ConnectionId) :
    (g.close id).nextConnection = g.nextConnection := by
  unfold close
  split <;> rfl

theorem Tidy.close {g : Gateway δ μ} (tidy : g.Tidy) (id : ConnectionId) : (g.close id).Tidy := by
  by_cases isOpen : id ∈ Table.keys g.connections
  · have closing : g.close id = _ := if_pos ((Table.holds_iff_mem_keys _ _).2 isOpen)
    refine ⟨?_, fun other bound => ?_, fun other member => ?_, ?_, ?_⟩
    · rw [closing]
      exact tidy.keyed.of_fewer Registry.held?_of_release
    · simp only [closing, Registry.sessionOf?_release] at bound
      split at bound
      · cases bound
      · rename_i different
        exact mem_keys_close.2 ⟨tidy.sessions other bound, Ne.symm different⟩
    · rw [nextConnection_close]
      exact tidy.numbered other (mem_keys_close.1 member).1
    · rw [keys_close]
      exact tidy.distinct.filter _
    · have fewer := Table.length_keys_erase tidy.distinct isOpen
      have counted := tidy.counted
      rw [closing]
      show g.stats.opened = g.stats.closed + 1 + (Table.keys (Table.erase g.connections id)).length
      omega
  · rwa [close_of_closed isOpen]

/-- Whether a connection has been open and is no longer. -/
def Past (g : Gateway δ μ) (id : ConnectionId) : Prop :=
  id.value < g.nextConnection ∧ id ∉ Table.keys g.connections

theorem past_close {g : Gateway δ μ} {id : ConnectionId} (numbered : id.value < g.nextConnection) :
    (g.close id).Past id :=
  ⟨g.nextConnection_close id ▸ numbered, fun member => (mem_keys_close.1 member).2 rfl⟩

variable [Directory δ] [MediaStore μ]

theorem Tidy.takeUnit {g : Gateway δ μ} (tidy : g.Tidy) (id : ConnectionId) (receivedAt : Instant)
    (unit : Bytes) : (g.takeUnit id receivedAt unit).2.Tidy := by
  cases isOpen : g.connection? id with
  | none => rwa [takeUnit_of_closed isOpen]
  | some c =>
    have known : id ∈ Table.keys g.connections :=
      (g.isSome_connection?_iff id).1 (by rw [isOpen]; rfl)
    have keyed : (c.decoder.decode g.services id receivedAt unit).2.2.registry.Keyed :=
      c.decoder.keeps_decode (Sessions.lasting_keyed id) tidy.keyed receivedAt unit
    have others {other : ConnectionId} (different : id ≠ other) :
        (c.decoder.decode g.services id receivedAt unit).2.2.registry.sessionOf? other =
          g.services.registry.sessionOf? other :=
      c.decoder.keeps_decode (Sessions.lasting_of_ne different _) rfl receivedAt unit
    have taken := taken_takeUnit isOpen receivedAt unit
    obtain ⟨lastPositions, same⟩ := taken.exists_registry_eq
    refine ⟨?_, ?_, ?_, ?_, ?_⟩
    · rw [same]
      exact keyed
    · intro other bound
      rw [taken.keys]
      by_cases own : id = other
      · rwa [← own]
      · apply tidy.sessions
        rw [← others own]
        rwa [same] at bound
    · intro other member
      rw [taken.keys] at member
      rw [taken.nextConnection]
      exact tidy.numbered other member
    · rw [taken.keys]
      exact tidy.distinct
    · rw [taken.keys, taken.opened, taken.closed]
      exact tidy.counted

theorem Tidy.step {g : Gateway δ μ} (tidy : g.Tidy) (s : Step) : (g.step s).Tidy := by
  cases s with
  | accept protocol transport endpoint => exact tidy.accept protocol transport endpoint
  | unit id receivedAt octets => exact tidy.takeUnit id receivedAt octets
  | close id => exact tidy.close id

/-- A connection that has closed does not open again. -/
theorem Past.step {g : Gateway δ μ} {id : ConnectionId} (past : g.Past id) (s : Step) :
    (g.step s).Past id := by
  obtain ⟨numbered, closed⟩ := past
  cases s with
  | accept protocol transport endpoint =>
    refine ⟨Nat.lt_succ_of_lt numbered, fun member => ?_⟩
    simp only [Gateway.step, accept, put, Table.keys_put] at member
    split at member
    · exact closed member
    · rcases List.mem_append.1 member with before | new
      · exact closed before
      · rw [List.mem_singleton.1 new] at numbered
        exact Nat.lt_irrefl _ numbered
  | unit other receivedAt octets =>
    cases isOpen : g.connection? other with
    | none =>
      rw [Gateway.step, takeUnit_of_closed isOpen]
      exact ⟨numbered, closed⟩
    | some c =>
      have taken := taken_takeUnit isOpen receivedAt octets
      exact ⟨taken.nextConnection ▸ numbered, taken.keys ▸ closed⟩
  | close other =>
    exact ⟨g.nextConnection_close other ▸ numbered,
      fun member => closed (mem_keys_close.1 member).1⟩

/-- Over any steps of a gateway, whatever its connections speak and however their sessions are
kept: each session of a connection is that of an open one; as many connections are open as were
opened and not yet closed; to close a connection once more changes nothing, whatever has happened
since; and if none is open, then no session of a connection is left. -/
theorem sessions_of_run (options : Protocol → ProtocolOptions) (directory : δ) (media : μ)
    (steps : List Step) :
    let g := (start options directory media).run steps
    (∀ key session, g.services.registry.held? key = some session →
        ∀ id, session.key = .connection id → (g.connection? id).isSome = true) ∧
      g.stats.opened = g.stats.closed + g.connectionCount ∧
      (∀ id later, (g.connection? id).isSome = true →
        ((g.close id).run later).close id = (g.close id).run later) ∧
      (g.connectionCount = 0 → g.services.registry.connections = []) := by
  intro g
  have tidy : g.Tidy :=
    run_induction Tidy (tidy_start options directory media) (fun _ s tidy => tidy.step s) steps
  refine ⟨?_, ?_, ?_, ?_⟩
  · intro key session held id own
    rw [isSome_connection?_iff]
    apply tidy.sessions
    rw [← tidy.keyed key session held, own] at held
    rw [show g.services.registry.sessionOf? id = some session from held]
    rfl
  · rw [connectionCount, tidy.counted, Table.keys, List.length_map]
  · intro id later isOpen
    have numbered := tidy.numbered id ((g.isSome_connection?_iff id).1 isOpen)
    have past : ((g.close id).run later).Past id :=
      run_induction (Past · id) (past_close numbered) (fun _ s past => past.step s) later
    exact close_of_closed past.2
  · intro none_open
    have no_connection : g.connections = [] := List.length_eq_zero_iff.1 none_open
    refine List.eq_nil_iff_forall_not_mem.2 fun entry member => ?_
    have bound : (g.services.registry.sessionOf? entry.1).isSome = true :=
      (Table.holds_iff_mem_keys _ _).2 (List.mem_map_of_mem member)
    have known := tidy.sessions entry.1 bound
    rw [no_connection] at known
    cases known

def sampleWatches (uniqueId : String) : Lookup :=
  if uniqueId = "1" then .known ⟨41⟩ else .known ⟨42⟩

/-- Two watches say who they are, and the first one goes. -/
def sampleSteps : List Step :=
  [.accept .watch .tcp ⟨0, .v4 [127, 0, 0, 1] 40000⟩,
    .accept .watch .udp ⟨1, .v4 [127, 0, 0, 1] 40001⟩,
    .unit ⟨0⟩ ⟨0, 0⟩ "[3G*1*0002*LK]".toUTF8.toList,
    .unit ⟨1⟩ ⟨0, 0⟩ "[3G*2*0002*LK]".toUTF8.toList,
    .close ⟨0⟩]

/-- The gateway after these steps. -/
def sampleGate : Gateway (String → Lookup) MediaLibrary :=
  (start (fun _ => .default) sampleWatches .empty).run sampleSteps

theorem sessions_of_sampleSteps :
    sampleGate.services.registry.held? (.connection ⟨1⟩) = some ⟨⟨42⟩, "2", .connection ⟨1⟩⟩ ∧
      (sampleGate.connection? ⟨1⟩).isSome = true ∧
      sampleGate.stats.opened = sampleGate.stats.closed + 1 ∧
      (sampleGate.close ⟨1⟩).close ⟨1⟩ = sampleGate.close ⟨1⟩ ∧
      (sampleGate.close ⟨1⟩).services.registry.connections = [] := by
  have held : sampleGate.services.registry.held? (.connection ⟨1⟩) =
      some ⟨⟨42⟩, "2", .connection ⟨1⟩⟩ := by
    decide +kernel
  have one : sampleGate.connectionCount = 1 := by decide +kernel
  have none_open : (sampleGate.close ⟨1⟩).connectionCount = 0 := by decide +kernel
  have going := sessions_of_run (fun _ => .default) sampleWatches MediaLibrary.empty sampleSteps
  have gone := sessions_of_run (fun _ => .default) sampleWatches MediaLibrary.empty
    (sampleSteps ++ [.close ⟨1⟩])
  rw [run_append] at gone
  rw [← sampleGate] at going gone
  obtain ⟨sessions, count, again, -⟩ := going
  obtain ⟨-, -, -, left⟩ := gone
  have isOpen := sessions _ _ held ⟨1⟩ rfl
  rw [one] at count
  exact ⟨held, isOpen, count, again ⟨1⟩ [] isOpen, left none_open⟩

end Gateway
end TrackerGateway
