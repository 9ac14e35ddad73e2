import TrackerGateway.Proofs.Guarded.Cursor

/-!
# Reading one thing after another

A loop reads what is at the cursor and takes it, as long as there is more. It comes to the same as
reading all that is there first and taking it afterwards (`takeAll_eq`), as each turn reads the
first of what is there (`Serves`) and leaves less.
-/

namespace TrackerGateway

open Guarded

variable {α γ σ β : Type}

/-- Takes things in order, and what ended them where no thing does. -/
def consume (turn : α → σ → σ ⊕ β) (stop : Option ProtocolFault → σ → β) :
    List α → Option ProtocolFault → σ → β
  | [], fault, s => stop fault s
  | a :: rest, fault, s =>
    match turn a s with
    | .inl s => consume turn stop rest fault s
    | .inr result => result

namespace Scan

/-- Reads and takes one thing after another. -/
def takeAll (more : Cursor → Guarded Bool) (next : Scan γ) (turn : γ → σ → Guarded (σ ⊕ β))
    (stop : Option ProtocolFault → σ → β) (s : σ) (c : Cursor) : Guarded β :=
  loop (fun p => p.2.reader.rest.length)
    (fun (s, c) => do
      if ← more c then
        match ← (next c).run with
        | .error fault => pure (.inr (stop (some fault) s))
        | .ok (a, c) =>
          match ← turn a s with
          | .inl s => pure (.inl (s, c))
          | .inr result => pure (.inr result)
      else pure (.inr (stop none s)))
    (s, c)

/-- What a turn at a cursor reads of all that is there. -/
inductive Serves (more : Cursor → Guarded Bool) (next : Scan γ) (change : α → γ) (holds : α → Prop)
    (all : Cursor → List α × Option ProtocolFault) (c : Cursor) : Prop where
  | ended (stopped : more c = .ok false) (none : all c = ([], none))
  | short {fault : ProtocolFault} (on : more c = .ok true) (failed : next c = .ok (.error fault))
      (none : all c = ([], some fault))
  | found {a : α} {after : Cursor} (on : more c = .ok true)
    (read : next c = .ok (.ok (change a, after)))
      (sound : after.Sound) (closer : after.reader.rest.length < c.reader.rest.length)
        (good : holds a)
      (first : all c = (a :: (all after).1, (all after).2))

/-- Whether anything is left. -/
def unread (c : Cursor) : Guarded Bool := do
  let empty ← c.isEmpty
  pure (!empty)

theorem serves_of_follows {next : Scan α} {read : Reader → Except ProtocolFault (α × Reader)}
    {holds : α → Prop} {all : Reader → List α × Option ProtocolFault}
    (follows : Follows next read) (finds : Reader.Finds read holds)
    (shorter : ∀ {r after a}, read r = .ok (a, after) → after.rest.length < r.rest.length)
    (all_of_isEmpty : ∀ {r}, r.isEmpty = true → all r = ([], none))
    (all_of_next : ∀ {r after a}, r.isEmpty = false → read r = .ok (a, after) →
      all r = (a :: (all after).1, (all after).2))
    (all_of_fault : ∀ {r fault}, r.isEmpty = false → read r = .error fault →
      all r = ([], some fault))
    {c : Cursor} (sound : c.Sound) : Serves unread next id holds (fun c => all c.reader) c := by
  have left : unread c = .ok (!c.reader.isEmpty) := by
    rw [unread, sound.isEmpty_eq]
    rfl
  have alike := follows c sound
  cases empty : c.reader.isEmpty with
  | true =>
    rw [empty] at left
    exact .ended left (all_of_isEmpty empty)
  | false =>
    rw [empty] at left
    cases found : read c.reader with
    | error fault =>
      rw [found] at alike
      exact .short left alike.eq_of_error (all_of_fault empty found)
    | ok p =>
      rw [found] at alike
      obtain ⟨after, sound', same, done⟩ := alike.exists_of_ok
      have whole := all_of_next empty found
      have closer := shorter found
      rw [← same] at whole closer
      exact .found left done sound' closer (finds _ _ _ found) whole

/-- Things may be taken as they are read. -/
theorem takeAll_eq {more : Cursor → Guarded Bool} {next : Scan γ} {change : α → γ}
    {holds : α → Prop} {all : Cursor → List α × Option ProtocolFault}
    {guardedTurn : γ → σ → Guarded (σ ⊕ β)} {turn : α → σ → σ ⊕ β}
    {stop : Option ProtocolFault → σ → β}
    (serves : ∀ c : Cursor, c.Sound → Serves more next change holds all c)
    (turns : ∀ a s, holds a → guardedTurn (change a) s = .ok (turn a s)) (s : σ) {c : Cursor}
    (sound : c.Sound) :
    takeAll more next guardedTurn stop s c = .ok (consume turn stop (all c).1 (all c).2 s) := by
  refine loop_eq (fun p : σ × Cursor => p.2.Sound)
    (fun p => consume turn stop (all p.2).1 (all p.2).2 p.1) (fun (s, c) sound => ?_) sound
  dsimp only at sound ⊢
  cases serves c sound with
  | ended stopped none =>
    left
    rw [stopped, none]
    rfl
  | short on failed none =>
    left
    rw [on, failed, none]
    rfl
  | found on read after closer good first =>
    rename_i a next
    rw [on, read, first, consume]
    simp only [ok_bind, if_true, ExceptT.run]
    rw [turns a s good]
    cases turned : turn a s with
    | inl s' => exact .inr ⟨(s', next), rfl, after, closer, rfl⟩
    | inr result => exact .inl rfl

end Scan
end TrackerGateway
