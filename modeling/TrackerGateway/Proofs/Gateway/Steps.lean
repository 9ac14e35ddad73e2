import TrackerGateway.Gateway
import TrackerGateway.Proofs.Session.Retention

/-!
# Runs of a gateway

Connections open, bring units and close, in any order. An error that closes its connection does so
in a step of its own, since steps of other connections may come before it: `Gateway.takeUnit` only
says that it is due, and `Gateway.process` is the two steps at once (`Gateway.process_eq_run`).
What a unit may change is what its decoder made of the services, and the last positions of devices
(`Gateway.taken_takeUnit`).
-/

namespace TrackerGateway

/-- The positions that came of a unit; none if it failed. -/
def told : Except Error (List Position) → List Position
  | .ok positions => positions
  | .error _ => []

theorem Registry.exists_foldl_updateLast (r : Registry) (positions : List Position) :
    ∃ lastPositions, positions.foldl updateLast r = { r with lastPositions } := by
  induction positions generalizing r with
  | nil => exact ⟨r.lastPositions, rfl⟩
  | cons p positions ih =>
    obtain ⟨lastPositions, same⟩ := ih (r.updateLast p)
    refine ⟨lastPositions, ?_⟩
    rw [List.foldl_cons, same, updateLast]
    split <;> rfl

namespace Gateway

variable {δ μ : Type}

/-- One step of a gateway. -/
inductive Step where
  | accept (protocol : Protocol) (transport : Transport) (endpoint : Endpoint)
  /-- A unit of a connection comes, at some time. -/
  | unit (id : ConnectionId) (receivedAt : Instant) (octets : Bytes)
  | close (id : ConnectionId)

theorem isSome_connection?_iff (g : Gateway δ μ) (id : ConnectionId) :
    (g.connection? id).isSome = true ↔ id ∈ Table.keys g.connections :=
  Table.holds_iff_mem_keys g.connections id

theorem keys_put_of_open {g : Gateway δ μ} {id : ConnectionId}
    (isOpen : id ∈ Table.keys g.connections) (c : Connection) :
    Table.keys (g.put id c).connections = Table.keys g.connections := by
  rw [put, Table.keys_put, if_pos ((Table.holds_iff_mem_keys _ _).2 isOpen)]

theorem foldl_emit (g : Gateway δ μ) (positions : List Position) :
    positions.foldl emit g =
      { g with
        services := { g.services with
          registry := positions.foldl Registry.updateLast g.services.registry }
        stats := { g.stats with positions := g.stats.positions + positions.length }
        emitted := g.emitted ++ positions } := by
  induction positions generalizing g with
  | nil => simp
  | cons p positions ih =>
    rw [List.foldl_cons, ih]
    simp [emit, Nat.add_assoc, Nat.add_comm 1]

/-- How a unit leaves a gateway: with the same connections, with what its decoder made of the
services, and with its positions handed on. -/
structure Taken (g g' : Gateway δ μ) (services : Services δ μ) (positions : List Position) :
    Prop where
  keys : Table.keys g'.connections = Table.keys g.connections
  nextConnection : g'.nextConnection = g.nextConnection
  opened : g'.stats.opened = g.stats.opened
  closed : g'.stats.closed = g.stats.closed
  registry : g'.services.registry = positions.foldl Registry.updateLast services.registry
  directory : g'.services.directory = services.directory
  emitted : g'.emitted = g.emitted ++ positions

/-- Handing positions on leaves all but the last positions of a registry as it is. -/
theorem Taken.exists_registry_eq {g g' : Gateway δ μ} {services : Services δ μ}
    {positions : List Position} (taken : g.Taken g' services positions) :
    ∃ lastPositions, g'.services.registry = { services.registry with lastPositions } := by
  rw [taken.registry]
  exact services.registry.exists_foldl_updateLast positions

variable [Directory δ] [MediaStore μ]

/-- Takes a unit, and says whether its connection is to be closed. Of a connection that is not
open it takes none. -/
def takeUnit (g : Gateway δ μ) (id : ConnectionId) (receivedAt : Instant) (unit : Bytes) :
    Bool × Gateway δ μ :=
  match g.connection? id with
  | none => (false, g)
  | some c =>
    let (result, decoder, services) := c.decoder.decode g.services id receivedAt unit
    let c := { c with decoder }
    let g := { g.put id c with
      services
      stats := { g.stats with frames := g.stats.frames + 1 } }
    let g := g.sendReplies c.endpoint
    match result with
    | .error error =>
      (error.closesConnection, { g with stats := { g.stats with errors := g.stats.errors + 1 } })
    | .ok positions => (false, g.deliver id c positions)

def step (g : Gateway δ μ) : Step → Gateway δ μ
  | .accept protocol transport endpoint => (g.accept protocol transport endpoint).2
  | .unit id receivedAt octets => (g.takeUnit id receivedAt octets).2
  | .close id => g.close id

def run (g : Gateway δ μ) (steps : List Step) : Gateway δ μ := steps.foldl step g

theorem run_append (g : Gateway δ μ) (earlier later : List Step) :
    g.run (earlier ++ later) = (g.run earlier).run later :=
  List.foldl_append

/-- What holds at first and what no step loses holds after any steps. -/
theorem run_induction (keeps : Gateway δ μ → Prop) {g : Gateway δ μ} (start : keeps g)
    (next : ∀ g s, keeps g → keeps (step g s)) (steps : List Step) : keeps (g.run steps) := by
  induction steps generalizing g with
  | nil => exact start
  | cons s steps ih => exact ih (next g s start)

/-- A unit is processed by taking it, and closing its connection if that is due. -/
theorem process_eq_run (g : Gateway δ μ) (id : ConnectionId) (receivedAt : Instant) (unit : Bytes) :
    g.process id receivedAt unit =
      g.run (.unit id receivedAt unit ::
        if (g.takeUnit id receivedAt unit).1 then [.close id] else []) := by
  show _ = List.foldl step (g.takeUnit id receivedAt unit).2 _
  cases isOpen : g.connection? id with
  | none => simp only [process, takeUnit, isOpen, Bool.false_eq_true, if_false, List.foldl_nil]
  | some c =>
    obtain ⟨⟨result, decoder, services⟩, decoded⟩ :
        ∃ outcome, c.decoder.decode g.services id receivedAt unit = outcome := ⟨_, rfl⟩
    simp only [process, takeUnit, isOpen, decoded]
    cases result with
    | ok positions => rfl
    | error error =>
      simp only [fail]
      split <;> rfl

theorem taken_takeUnit {g : Gateway δ μ} {id : ConnectionId} {c : Connection}
    (isOpen : g.connection? id = some c) (receivedAt : Instant) (unit : Bytes) :
    g.Taken (g.takeUnit id receivedAt unit).2
      (c.decoder.decode g.services id receivedAt unit).2.2
      (told (c.decoder.decode g.services id receivedAt unit).1) := by
  have known : id ∈ Table.keys g.connections :=
    (g.isSome_connection?_iff id).1 (by rw [isOpen]; rfl)
  have same (decoder : Decoder) := keys_put_of_open known { c with decoder }
  simp only [takeUnit, isOpen]
  generalize c.decoder.decode g.services id receivedAt unit = outcome
  obtain ⟨result, decoder, services⟩ := outcome
  cases result with
  | error error => exact ⟨same decoder, rfl, rfl, rfl, rfl, rfl, (List.append_nil _).symm⟩
  | ok positions =>
    simp only [deliver, foldl_emit]
    refine ⟨?_, rfl, rfl, rfl, rfl, rfl, rfl⟩
    exact (keys_put_of_open (same decoder ▸ known) _).trans (same decoder)

theorem takeUnit_of_closed {g : Gateway δ μ} {id : ConnectionId} (closed : g.connection? id = none)
    (receivedAt : Instant) (unit : Bytes) : g.takeUnit id receivedAt unit = (false, g) := by
  rw [takeUnit, closed]

end Gateway
end TrackerGateway
