import TrackerGateway.Proofs.Session.Identities

/-!
# Calls of a registry, one after the other

Between two calls a directory may become any other one: devices are added, renumbered and removed
there while the registry is at work. `Sessions.callAll` is the run of a list of calls. An
`Audited` directory answers as the directory in it does and writes its answers down, which the
registry cannot tell (`Sessions.callAll_audited`).
-/

namespace TrackerGateway

/-- What can be asked of a registry. -/
inductive Operation where
  | resolve (mode : SessionMode) (connection : ConnectionId) (identifier : Option String)
  | release (connection : ConnectionId)
  | evict (uniqueId : String)
  | updateLast (position : Position)

inductive Response where
  | session (found : Option Session)
  | failed (error : Error)
  /-- Whether there was anything to remove. -/
  | removed (any : Bool)
  | done
  deriving DecidableEq

def Response.ofResult : Except Error (Option Session) → Response
  | .ok found => .session found
  | .error error => .failed error

/-- An operation, and what became of the directory since the one before it. -/
structure Call (δ : Type) where
  change : δ → δ
  operation : Operation

/-- A directory with the answers that it gave, first to last. -/
structure Audited (δ : Type) where
  directory : δ
  answers : List (String × Lookup)

instance {δ : Type} [Directory δ] : Directory (Audited δ) where
  lookup audited uniqueId :=
    let (answer, directory) := Directory.lookup audited.directory uniqueId
    (answer, ⟨directory, audited.answers ++ [(uniqueId, answer)]⟩)

/-- The same call where answers are written down. -/
def Call.audited {δ : Type} (call : Call δ) : Call (Audited δ) where
  change audited := { audited with directory := call.change audited.directory }
  operation := call.operation

namespace Sessions

variable {δ : Type}

/-- The same sessions without the answers that were written down. -/
def unaudited (s : Sessions (Audited δ)) : Sessions δ := (s.1, s.2.directory)

variable [Directory δ]

def perform (s : Sessions δ) : Operation → Response × Sessions δ
  | .resolve mode connection identifier =>
    let (result, s) := s.1.resolve s.2 mode connection identifier
    (.ofResult result, s)
  | .release connection =>
    let (any, registry) := s.1.release connection
    (.removed any, registry, s.2)
  | .evict uniqueId =>
    let (any, registry) := s.1.evict uniqueId
    (.removed any, registry, s.2)
  | .updateLast position => (.done, s.1.updateLast position, s.2)

def call (s : Sessions δ) (c : Call δ) : Response × Sessions δ :=
  perform (s.1, c.change s.2) c.operation

/-- The responses to calls, and the sessions after them. -/
def callAll (s : Sessions δ) : List (Call δ) → List Response × Sessions δ
  | [] => ([], s)
  | c :: rest =>
    let (response, s) := s.call c
    let (responses, s) := s.callAll rest
    (response :: responses, s)

theorem callAll_cons (s : Sessions δ) (c : Call δ) (rest : List (Call δ)) :
    s.callAll (c :: rest) =
      ((s.call c).1 :: ((s.call c).2.callAll rest).1, ((s.call c).2.callAll rest).2) :=
  rfl

/-- What holds before calls and what none of them loses holds after them. -/
theorem callAll_induction (keeps : Sessions δ → Prop) {s : Sessions δ} (start : keeps s)
    (calls : List (Call δ)) (step : ∀ s, ∀ c ∈ calls, keeps s → keeps (s.call c).2) :
    keeps (s.callAll calls).2 := by
  induction calls generalizing s with
  | nil => exact start
  | cons c rest ih =>
    exact ih (step s c List.mem_cons_self start) fun s' c' later =>
      step s' c' (List.mem_cons_of_mem c later)

/-! ### Writing answers down -/

theorem identify_unaudited (r : Registry) (audited : Audited δ) (uniqueId : String)
    (asker : Option ConnectionId) :
    r.identify audited.directory uniqueId asker =
      ((r.identify audited uniqueId asker).1, (r.identify audited uniqueId asker).2.1,
        (r.identify audited uniqueId asker).2.2.directory) := by
  unfold Registry.identify
  split <;> rfl

theorem resolve_unaudited (r : Registry) (audited : Audited δ) (mode : SessionMode)
    (connection : ConnectionId) (identifier : Option String) :
    r.resolve audited.directory mode connection identifier =
      ((r.resolve audited mode connection identifier).1,
        unaudited (r.resolve audited mode connection identifier).2) := by
  cases identifier with
  | none => cases mode <;> rfl
  | some uniqueId =>
    cases mode with
    | byConnection =>
      show r.resolveOnConnection audited.directory connection uniqueId =
        ((r.resolveOnConnection audited connection uniqueId).1,
          unaudited (r.resolveOnConnection audited connection uniqueId).2)
      unfold Registry.resolveOnConnection
      split
      · rfl
      · rw [identify_unaudited]
        rcases r.identify audited uniqueId (some connection) with ⟨_ | _ | _, _⟩ <;> rfl
    | byIdentifier =>
      show r.resolveIdentifier audited.directory uniqueId =
        ((r.resolveIdentifier audited uniqueId).1,
          unaudited (r.resolveIdentifier audited uniqueId).2)
      unfold Registry.resolveIdentifier
      split
      · rfl
      · rw [identify_unaudited]
        rcases r.identify audited uniqueId none with ⟨_ | _ | _, _⟩ <;> rfl

theorem call_audited (s : Sessions (Audited δ)) (c : Call δ) :
    s.unaudited.call c = ((s.call c.audited).1, (s.call c.audited).2.unaudited) := by
  obtain ⟨change, operation⟩ := c
  cases operation with
  | resolve mode connection identifier =>
    have same :=
      resolve_unaudited s.1 ⟨change s.2.directory, s.2.answers⟩ mode connection identifier
    simp only [call, perform, unaudited, Call.audited] at same ⊢
    rw [same]
  | release | evict | updateLast => rfl

/-- Writing the answers down changes nothing else. -/
theorem callAll_audited (s : Sessions (Audited δ)) (calls : List (Call δ)) :
    s.unaudited.callAll calls = ((s.callAll (calls.map Call.audited)).1,
          (s.callAll (calls.map Call.audited)).2.unaudited) := by
  induction calls generalizing s with
  | nil => rfl
  | cons c rest ih => rw [List.map_cons, callAll_cons, callAll_cons, call_audited, ih]

end Sessions
end TrackerGateway
