import TrackerGateway.Proofs.Pattern.Search
import TrackerGateway.Proofs.Pattern.Signs

/-!
# Patterns with the same ways

Of a pattern only its ways matter for what it matches, and a pattern made of others has the ways
that theirs make. So a reading may go on with parts in place of others that have the same ways
(`Reading.Alike`), and with one part that stands so often in place of as many
(`Reading.Alike.addRun`).
-/

namespace TrackerGateway.Pattern

theorem way_choice_congr {ps qs : List Pattern} (same : ps.map way = qs.map way) :
    (choice ps).way = (choice qs).way := by
  induction ps generalizing qs with
  | nil =>
    cases qs with
    | nil => rfl
    | cons q qs => cases same
  | cons p ps ih =>
    cases qs with
    | nil => cases same
    | cons q qs =>
      obtain ⟨first, others⟩ := List.cons.inj same
      have onward := ih others
      cases ps with
      | nil =>
        cases qs with
        | nil => exact first
        | cons => cases others
      | cons =>
        cases qs with
        | nil => cases others
        | cons => simp only [choice, way, first] at onward ⊢; rw [onward]

theorem way_repeated_congr {p q : Pattern} (same : p.way = q.way) (least : Nat) (most : Option Nat)
    (greedy : Bool) : (repeated p least most greedy).way = (repeated q least most greedy).way := by
  unfold repeated
  split
  case h_1 =>
    cases greedy <;> simp only [star, way, same, if_true, Bool.false_eq_true, if_false]
  case h_6 =>
    split <;> simp only [way, same]
  all_goals simp only [way, same]

theorem way_group_congr {p q : Pattern} (same : p.way = q.way) (index : Nat) :
    (group index p).way = (group index q).way := by
  simp only [group, way, same]

theorem wayOf_replicate (p : Pattern) (n : Nat) : wayOf (List.replicate n p) = (times p n).way := by
  induction n with
  | zero => rfl
  | succ n ih => exact congrArg p.way.andThen ih

namespace Source.Reading

/-- Readings of patterns with the same ways. -/
structure Alike (r s : Reading) : Prop where
  alternatives : r.alternatives.map Pattern.way = s.alternatives.map Pattern.way
  current : r.current.way = s.current.way

variable {r s : Reading} {p q : Pattern}

theorem Alike.refl (r : Reading) : Alike r r := ⟨rfl, rfl⟩

theorem Alike.next (alike : Alike r s) : Alike r.next s.next :=
  ⟨by simp only [Reading.next, List.map_cons, alike.current, alike.alternatives], rfl⟩

theorem Alike.pattern (alike : Alike r s) : r.pattern.way = s.pattern.way := by
  refine way_choice_congr ?_
  rw [List.map_reverse, List.map_reverse]
  exact congrArg List.reverse alike.next.alternatives

theorem way_current (r : Reading) : r.current.way = wayOf (r.parts.reverse.filterMap id) :=
  way_sequence _

theorem way_current_add (r : Reading) (p : Pattern) :
    (r.add (some p)).current.way = r.current.way.andThen p.way := by
  rw [way_current, way_current, add, List.reverse_cons, List.filterMap_append, wayOf_append]
  exact congrArg _ (wayOf_singleton p)

theorem current_add_none (r : Reading) : (r.add none).current = r.current := by
  rw [current, current, add, List.reverse_cons, List.filterMap_append]
  exact congrArg sequence (List.append_nil _)

theorem Alike.add (alike : Alike r s) (same : p.way = q.way) :
    Alike (r.add (some p)) (s.add (some q)) :=
  ⟨alike.alternatives, by rw [way_current_add, way_current_add, alike.current, same]⟩

theorem Alike.add_none (alike : Alike r s) : Alike (r.add none) (s.add none) :=
  ⟨alike.alternatives, by rw [current_add_none, current_add_none, alike.current]⟩

/-- Adds a part so often. -/
def addRun (r : Reading) (p : Pattern) (n : Nat) : Reading :=
  { r with parts := List.replicate n (some p) ++ r.parts }

theorem add_addRun (r : Reading) (p : Pattern) (n : Nat) :
    (r.add (some p)).addRun p n = r.addRun p (n + 1) := by
  simp only [add, addRun, List.replicate_succ', List.append_assoc, List.singleton_append]

/-- A part so often leads the same ways as one that stands for it so often. -/
theorem Alike.addRun (alike : Alike r s) (p : Pattern) (n : Nat) :
    Alike (r.add (some (.times p n))) (s.addRun p n) := by
  refine ⟨alike.alternatives, ?_⟩
  have parts : (s.addRun p n).current.way = s.current.way.andThen (wayOf (List.replicate n p)) := by
    rw [way_current, way_current, Reading.addRun, List.reverse_append, List.filterMap_append,
      wayOf_append,
      List.reverse_replicate, List.filterMap_replicate_of_some (show id (some p) = some p from rfl)]
  rw [way_current_add, parts, wayOf_replicate, alike.current]

/-- The last part is like the last of another reading, and so is what stands before it. -/
def SameLast (r s : Reading) : Prop :=
  ∀ q before, s.parts = some q :: before → ∃ p front, r.parts = some p :: front ∧ p.way = q.way ∧
    Alike { r with parts := front } { s with parts := before }

theorem sameLast_start : SameLast .start .start := by
  intro q before shape
  cases shape

theorem sameLast_next (r s : Reading) : SameLast r.next s.next := by
  intro q before shape
  cases shape

theorem sameLast_add_none (r s : Reading) : SameLast (r.add none) (s.add none) := by
  intro q before shape
  cases shape

theorem Alike.sameLast (alike : Alike r s) (same : p.way = q.way) :
    SameLast (r.add (some p)) (s.add (some q)) := by
  rintro _ _ ⟨⟩
  exact ⟨p, r.parts, rfl, same, alike⟩

/-- To repeat last parts that are alike keeps them so. -/
theorem SameLast.repeat? (last : SameLast r s) {build : Pattern → Pattern}
    (congr : ∀ {p q : Pattern}, p.way = q.way → (build p).way = (build q).way) {t : Reading}
    (found : s.repeat? build = some t) :
    ∃ u, r.repeat? build = some u ∧ Alike u t ∧ SameLast u t := by
  unfold Reading.repeat? at found ⊢
  split at found
  case h_2 => cases found
  case h_1 q before shape =>
    cases found
    obtain ⟨p, front, shape, same, alike⟩ := last q before shape
    rw [shape]
    exact ⟨_, rfl, alike.add (congr same), alike.sameLast (congr same)⟩

end Source.Reading
end TrackerGateway.Pattern
