import TrackerGateway.Watch.Framing

/-!
# Contents and the octets that write them

`Escape.Writes` says how a content may stand in a frame: the octets that have a meaning in a frame
as pairs, a comma either way, all others as they are. As many octets as the content has are read
back from what writes it (`takeResolved_of_writes`).
-/

namespace TrackerGateway.Watch

namespace Escape

/-- The octets that may stand as pairs, with their codes. -/
def codes : List (UInt8 × UInt8) := [(0x7D, 1), (0x5B, 2), (0x5D, 3), (0x2C, 4), (0x2A, 5)]

/-- The octets that have to. -/
def reserved : List UInt8 := [mark, opening, closing, star]

/-- The octets that may stand for a content. -/
inductive Writes : Bytes → Bytes → Prop where
  | nil : Writes [] []
  | plain {octet : UInt8} {content body : Bytes} (free : octet ∉ reserved)
    (rest : Writes content body) : Writes (octet :: content) (octet :: body)
  | pair {octet code : UInt8} {content body : Bytes} (coded : (octet, code) ∈ codes)
    (rest : Writes content body) : Writes (octet :: content) (mark :: code :: body)

theorem meaning?_of_mem_codes {octet code : UInt8} (h : (octet, code) ∈ codes) :
    meaning? code = some octet := by
  have all : codes.all (fun pair => meaning? pair.2 == some pair.1) = true := by decide
  exact eq_of_beq (List.all_eq_true.1 all _ h)

theorem code_notMem_reserved {octet code : UInt8} (h : (octet, code) ∈ codes) :
    code ∉ reserved := by
  have all : codes.all (fun pair => !reserved.contains pair.2) = true := by decide
  simpa using List.all_eq_true.1 all _ h

/-- Of the octets with a meaning in a frame only the mark stands in what writes a content. -/
theorem Writes.notMem {content body : Bytes} (h : Writes content body) {octet : UInt8}
    (special : octet ∈ reserved) (other : octet ≠ mark) : octet ∉ body := by
  induction h with
  | nil => exact List.not_mem_nil
  | plain free _ ih =>
    rw [List.mem_cons, not_or]
    refine ⟨?_, ih⟩
    rintro rfl
    exact free special
  | pair coded _ ih =>
    rw [List.mem_cons, List.mem_cons, not_or, not_or]
    refine ⟨other, ?_, ih⟩
    rintro rfl
    exact code_notMem_reserved coded special

theorem Writes.append {content body more moreBody : Bytes} (h : Writes content body)
    (rest : Writes more moreBody) : Writes (content ++ more) (body ++ moreBody) := by
  induction h with
  | nil => exact rest
  | plain free _ ih => exact .plain free ih
  | pair coded _ ih => exact .pair coded ih

theorem writes_self {content : Bytes} (free : ∀ octet ∈ content, octet ∉ reserved) :
    Writes content content := by
  induction content with
  | nil => exact .nil
  | cons octet content ih =>
    apply Writes.plain (free octet List.mem_cons_self)
    exact ih fun other member => free other (List.mem_cons_of_mem _ member)

/-- A content with a pair for each octet that may stand as one. -/
def paired (content : Bytes) : Bytes :=
  content.flatMap fun octet =>
    match codes.lookup octet with
    | some code => [mark, code]
    | none => [octet]

/-- Every content can be written. -/
theorem writes_paired (content : Bytes) : Writes content (paired content) := by
  have free : ∀ octet ∈ reserved, (codes.lookup octet).isSome := by decide +kernel
  induction content with
  | nil => exact .nil
  | cons octet content ih =>
    rw [paired, List.flatMap_cons]
    cases coded : codes.lookup octet with
    | some code =>
      obtain ⟨before, after, split, -⟩ := List.lookup_eq_some_iff.1 coded
      have listed : (octet, code) ∈ codes := by
        rw [split]
        exact List.mem_append_right _ List.mem_cons_self
      exact .pair listed ih
    | none =>
      refine .plain (fun special => ?_) ih
      have there := free octet special
      rw [coded] at there
      cases there

theorem Writes.length_le {content body : Bytes} (h : Writes content body) :
    body.length ≤ 2 * content.length := by
  induction h with
  | nil => exact Nat.le_refl _
  | plain _ _ ih =>
    simp only [List.length_cons]
    omega
  | pair _ _ ih =>
    simp only [List.length_cons]
    omega

end Escape

theorem takeResolved_of_writes {content body : Bytes} (h : Escape.Writes content body)
    (taken rest : Bytes) :
    takeResolved taken content.length (body ++ rest) = some (taken.reverse ++ content, rest) := by
  induction h generalizing taken with
  | nil =>
    rw [List.append_nil]
    rfl
  | @plain octet content body free _ ih =>
    have unmarked : octet ≠ Escape.mark := by
      rintro rfl
      exact free (by decide)
    simp only [List.length_cons, List.cons_append, takeResolved, unmarked, if_false]
    rw [ih, List.reverse_cons, List.append_assoc]
    rfl
  | @pair octet code content body coded _ ih =>
    simp only [List.length_cons, List.cons_append, takeResolved, if_true,
      Escape.meaning?_of_mem_codes coded]
    rw [ih, List.reverse_cons, List.append_assoc]
    rfl

/-! ### Contents without pairs -/

/-- Resolving changes nothing where no mark has a code behind it. -/
theorem unescape_cons_eq_iff {octet : UInt8} {content : Bytes} :
    unescape (octet :: content) = octet :: content ↔
      unescape content = content ∧
        (octet = Escape.mark → ∀ code ∈ content.head?, Escape.meaning? code = none) := by
  have shorter := length_unescape_le content
  rw [unescape_cons]
  constructor
  · intro same
    cases resolved : unescape content with
    | nil =>
      rw [resolved, Escape.push, List.cons.injEq] at same
      rw [← same.2]
      refine ⟨rfl, ?_⟩
      rintro _ code ⟨⟩
    | cons code rest =>
      rw [resolved, Escape.push] at same
      rw [resolved] at shorter
      split at same
      · -- A pair would make the whole shorter.
        have lengths := congrArg List.length same
        simp only [List.length_cons] at lengths shorter
        omega
      · rename_i unpaired
        rw [List.cons.injEq] at same
        rw [← same.2]
        refine ⟨rfl, ?_⟩
        rintro marked next ⟨⟩
        rwa [if_pos marked] at unpaired
  · rintro ⟨same, unpaired⟩
    rw [same]
    cases content with
    | nil => rfl
    | cons code rest =>
      rw [Escape.push]
      by_cases marked : octet = Escape.mark
      · rw [if_pos marked, unpaired marked code rfl]
      · rw [if_neg marked]

theorem unescape_eq_of_append {front rest : Bytes}
    (same : unescape (front ++ rest) = front ++ rest) : unescape front = front := by
  induction front with
  | nil => rfl
  | cons octet front ih =>
    rw [List.cons_append, unescape_cons_eq_iff] at same
    refine unescape_cons_eq_iff.2 ⟨ih same.1, fun marked code first => same.2 marked code ?_⟩
    cases front with
    | nil => cases first
    | cons next front => exact first

/-- Resolving makes a content with a pair shorter. -/
theorem unescape_eq_of_length {octets : Bytes} (same : (unescape octets).length = octets.length) :
    unescape octets = octets := by
  induction octets with
  | nil => rfl
  | cons octet octets ih =>
    have shorter := length_unescape_le octets
    have most := Escape.length_push_le octet (unescape octets)
    rw [unescape_cons, List.length_cons] at same
    have rest := ih (by omega)
    rw [rest] at same most
    rw [unescape_cons, rest]
    cases octets with
    | nil => rfl
    | cons code octets =>
      rw [Escape.push] at same ⊢
      split at same
      · simp only [List.length_cons] at same
        omega
      · rfl

theorem takeResolved_of_unpaired {content : Bytes} (plain : unescape content = content)
    (taken rest : Bytes) :
    takeResolved taken content.length (content ++ closing :: rest) =
      some (taken.reverse ++ content, closing :: rest) := by
  induction content generalizing taken with
  | nil => simp [takeResolved]
  | cons octet content ih =>
    obtain ⟨plain, unpaired⟩ := unescape_cons_eq_iff.1 plain
    have onward := ih plain (octet :: taken)
    rw [List.reverse_cons, List.append_assoc] at onward
    rw [List.length_cons, List.cons_append]
    by_cases marked : octet = Escape.mark
    · cases content with
      | nil =>
        have unpaired : Escape.meaning? closing = none := rfl
        simp only [List.nil_append, takeResolved, if_pos marked, unpaired]
        exact onward
      | cons code content =>
        have unpaired := unpaired marked code rfl
        rw [List.cons_append] at onward ⊢
        unfold takeResolved
        simp only [if_pos marked, unpaired]
        exact onward
    · simp only [takeResolved, if_neg marked]
      exact onward

/-- Octets taken off a buffer use up at least as many. -/
theorem length_of_takeResolved {taken raw content rest : Bytes} {count : Nat}
    (h : takeResolved taken count raw = some (content, rest)) :
    content.length = taken.length + count ∧ ∃ used, raw = used ++ rest ∧ count ≤ used.length := by
  fun_induction takeResolved taken count raw with
  | case1 taken rest =>
    cases h
    exact ⟨List.length_reverse, [], rfl, Nat.le_refl _⟩
  | case2 => cases h
  | case3 => cases h
  | case4 taken count code after meant paired ih =>
    obtain ⟨length, used, rfl, enough⟩ := ih h
    refine ⟨?_, Escape.mark :: code :: used, rfl, ?_⟩
    · rw [length, List.length_cons]
      omega
    · simp only [List.length_cons]
      omega
  | case5 taken count code after unpaired ih =>
    obtain ⟨length, used, split, enough⟩ := ih h
    refine ⟨?_, Escape.mark :: used, by rw [split]; rfl, Nat.succ_le_succ enough⟩
    rw [length, List.length_cons]
    omega
  | case6 taken count octet after unmarked ih =>
    obtain ⟨length, used, rfl, enough⟩ := ih h
    refine ⟨?_, octet :: used, rfl, Nat.succ_le_succ enough⟩
    rw [length, List.length_cons]
    omega

end TrackerGateway.Watch
