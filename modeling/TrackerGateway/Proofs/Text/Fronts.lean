import Mathlib.Data.List.TakeWhile

/-!
# The front of a text as far as its characters are of a kind
-/

namespace TrackerGateway.Text

variable {α : Type} {isPart : α → Bool} {part rest other : List α} {x : α}

/-- A text does not go on with a character of a kind. -/
def Stops (isPart : α → Bool) (rest : List α) : Prop := ∀ x, rest.head? = some x → isPart x = false

theorem stops_nil : Stops isPart [] := nofun

theorem stops_cons (isEnd : isPart x = false) (rest : List α) : Stops isPart (x :: rest) := by
  rintro _ ⟨⟩
  exact isEnd

theorem Stops.cons (stops : Stops isPart (x :: rest)) (other : List α) :
    Stops isPart (x :: other) :=
  stops_cons (stops x rfl) other

theorem Stops.congr (stops : Stops isPart rest) (same : other.head? = rest.head?) :
    Stops isPart other := by
  unfold Stops at *
  rwa [same]

/-- A text comes apart where characters of a kind end. -/
theorem exists_stops (isPart : α → Bool) (xs : List α) :
    ∃ part rest, xs = part ++ rest ∧ (∀ x ∈ part, isPart x = true) ∧ Stops isPart rest := by
  refine ⟨xs.takeWhile isPart, xs.dropWhile isPart, List.takeWhile_append_dropWhile.symm,
    List.all_eq_true.1 List.all_takeWhile, fun x first => ?_⟩
  have stopped := List.head?_dropWhile_not isPart xs
  rw [first] at stopped
  exact stopped

theorem takeWhile_of_stops (all : ∀ x ∈ part, isPart x = true) (stops : Stops isPart rest) :
    (part ++ rest).takeWhile isPart = part := by
  rw [List.takeWhile_append_of_pos all]
  cases rest with
  | nil => exact List.append_nil _
  | cons x more => rw [List.takeWhile_cons_of_neg (by simp [stops x rfl]), List.append_nil]

theorem dropWhile_of_stops (all : ∀ x ∈ part, isPart x = true) (stops : Stops isPart rest) :
    (part ++ rest).dropWhile isPart = rest := by
  rw [List.dropWhile_append_of_pos all]
  cases rest with
  | nil => rfl
  | cons x more => rw [List.dropWhile_cons_of_neg (by simp [stops x rfl])]

/-- A text comes apart in one way at the first of its separators. -/
theorem append_cons_inj_of_notMem {separator : α} {front front' : List α}
    (clear : separator ∉ front) (clear' : separator ∉ front')
    (same : front ++ separator :: rest = front' ++ separator :: other) :
    front = front' ∧ rest = other := by
  classical
  have parts {xs : List α} (clear : separator ∉ xs) : ∀ x ∈ xs, decide (x ≠ separator) = true := by
    intro x member
    exact decide_eq_true fun here => clear (here ▸ member)
  have ends (xs : List α) : Stops (fun x => decide (x ≠ separator)) (separator :: xs) :=
    stops_cons (by simp) xs
  have fronts := congrArg (List.takeWhile fun x => decide (x ≠ separator)) same
  rw [takeWhile_of_stops (parts clear) (ends _),
    takeWhile_of_stops (parts clear') (ends _)] at fronts
  subst fronts
  exact ⟨rfl, (List.cons.inj (List.append_cancel_left same)).2⟩

end TrackerGateway.Text
