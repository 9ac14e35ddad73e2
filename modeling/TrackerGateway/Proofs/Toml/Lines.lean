import TrackerGateway.Proofs.Toml.Places
import TrackerGateway.Proofs.Toml.Values

/-!
# The lines of a document

Each line that is written takes the reader one step on (`Advances`). A plain value goes into the
table of the last header, and a header opens a table, or one more table of a list. The plain
values of a table take one line each (`advances_lines`).
-/

namespace TrackerGateway.Toml

open Toml.Scan

variable {p q r : Progress} {text : List Char}

/-! ### Lines -/

/-- Some lines take the reader from one moment to another. -/
def Advances (text : List Char) (p q : Progress) : Prop :=
  ∃ steps, steps ≤ text.length ∧ ∀ fuel rest, expressions (fuel + steps) p (text ++ rest) =
    expressions fuel q rest

theorem Advances.refl (p : Progress) : Advances [] p p := ⟨0, Nat.le_refl _, fun _ _ => rfl⟩

theorem Advances.append {more : List Char} (first : Advances text p q)
    (second : Advances more q r) : Advances (text ++ more) p r := by
  obtain ⟨m, few, reads⟩ := first
  obtain ⟨n, fewer, reads'⟩ := second
  refine ⟨n + m, by rw [List.length_append]; omega, fun fuel rest => ?_⟩
  rw [← Nat.add_assoc, List.append_assoc, reads, reads']

/-- A line that takes one step. -/
theorem advances_line (some_there : text ≠ [])
    (reads : ∀ fuel rest, expressions (fuel + 1) p (text ++ rest) = expressions fuel q rest) :
    Advances text p q :=
  ⟨1, List.length_pos_iff.2 some_there, reads⟩

theorem expressions_blank (p : Progress) (fuel : Nat) (cs : List Char) :
    expressions (fuel + 1) p ('\n' :: cs) = expressions fuel p cs := rfl

theorem advances_blank (p : Progress) : Advances ['\n'] p p :=
  advances_line (List.cons_ne_nil _ _) (expressions_blank p)

theorem Advances.finished (advances : Advances text p q) {fuel : Nat}
    (enough : text.length < fuel) : expressions fuel p text = some (q, []) := by
  obtain ⟨steps, few, reads⟩ := advances
  obtain ⟨more, rfl⟩ : ∃ more, fuel = more + 1 + steps := ⟨fuel - 1 - steps, by omega⟩
  have all := reads (more + 1) []
  rw [List.append_nil] at all
  rw [all]
  rfl

/-! ### Values behind their keys -/

theorem expressions_entry {c : Char} {cs : List Char} (bare : isBare c = true) (fuel : Nat) :
    expressions (fuel + 1) p (c :: cs) = (entry p >>= expressions fuel) (c :: cs) := by
  have noBlanks : (c :: cs).dropWhile isBlank = c :: cs :=
    List.dropWhile_cons_of_neg (by simp [isBlank_of_isBare bare])
  rw [expressions]
  simp only [bind, StateT.bind, blanks_eq, noBlanks, Option.bind_some, peek, List.head?_cons]
  generalize first : some c = next
  split
  · cases first
  · cases first
    cases bare
  · cases first
    cases bare
  · cases first
    cases bare
  · cases first
    cases bare
  · rfl

/-- A line with a plain value puts it into the table of the last header. -/
theorem advances_entry {key : String} {j : Json} {root : Section}
    (bare : Printer.isBare key = true) (plain : Plain j)
    (changed : p.root.descend false (Section.insert [] key j) p.current = some root) :
    Advances (key.toList ++ ' ' :: '=' :: ' ' :: ((Printer.value j).toList ++ ['\n'])) p
        { p with root } := by
  refine advances_line (by simp) fun fuel rest => ?_
  obtain ⟨c, tail, shape, ofBare⟩ := key_cons bare
  have read := keyValue_written bare plain rest
  have entered : entry p
      (key.toList ++ ' ' :: '=' :: ' ' :: ((Printer.value j).toList ++ '\n' :: rest)) =
      some ({ p with root }, rest) := by
    unfold entry
    simp only [bind, StateT.bind, read, Option.bind_some]
    simp only [changed]
    rfl
  simp only [List.append_assoc, List.cons_append, List.nil_append]
  rw [shape] at entered ⊢
  rw [List.cons_append, expressions_entry ofBare]
  show (entry p _).bind _ = _
  rw [← List.cons_append, entered]
  rfl

/-! ### Headers -/

/-- Keys that a header can write. -/
structure Header (path : List String) (last : String) : Prop where
  bare : ∀ key ∈ path ++ [last], Printer.isBare key = true
  within : path.length + 1 < depthLimit

variable {path : List String} {last : String} {root : Section}

theorem Header.read (keys : Header path last) (rest : List Char) :
    (splitKey <$> key) ((Printer.path (path ++ [last])).toList ++ ']' :: rest) =
      some ((path, last), ']' :: rest) :=
  splitKey_written keys.bare keys.within (fun c first => by cases first; rfl) fun point => by
    cases Option.some.inj point

/-- A line that is a header behind its first bracket. -/
theorem advances_bracket (entered : ∀ rest, header p (text ++ rest) = some (q, rest)) :
    Advances ('[' :: text) p q := by
  refine advances_line (List.cons_ne_nil _ _) fun fuel rest => ?_
  show (header p (text ++ rest)).bind _ = _
  rw [entered]
  rfl

/-- A header opens a table. -/
theorem advances_header (keys : Header path last) (opened : p.root.open? path last = some root) :
    Advances ('[' :: ((Printer.path (path ++ [last])).toList ++ [']', '\n'])) p
        ⟨root, path ++ [last]⟩ := by
  refine advances_bracket fun rest => ?_
  have single : ((Printer.path (path ++ [last])).toList ++ ']' :: '\n' :: rest).head? ≠
      some '[' := by
    obtain ⟨c, tail, shape, ofBare⟩ := path_head (by simp) keys.bare
    rw [shape]
    intro same
    cases same
    cases ofBare
  have read := keys.read ('\n' :: rest)
  simp only [List.append_assoc, List.cons_append, List.nil_append]
  unfold header
  simp only [bind, StateT.bind, char?_of_ne single, read, Option.bind_some]
  simp only [opened]
  rfl

/-- A header of a list opens one more table in it. -/
theorem advances_listHeader (keys : Header path last)
    (opened : p.root.openNext? path last = some root) :
    Advances ('[' :: '[' :: ((Printer.path (path ++ [last])).toList ++ [']', ']', '\n'])) p
      ⟨root, path ++ [last]⟩ := by
  refine advances_bracket fun rest => ?_
  have read := keys.read (']' :: '\n' :: rest)
  simp only [List.append_assoc, List.cons_append, List.nil_append]
  unfold header
  simp only [bind, StateT.bind, char?, if_true, read, Option.bind_some]
  simp only [opened]
  rfl

/-! ### The plain values of a table -/

/-- A member with a plain value on its line. -/
def line (m : String × Json) : List Char :=
  (Printer.key m.1).toList ++ ' ' :: '=' :: ' ' :: ((Printer.value m.2).toList ++ ['\n'])

/-- The members of a table that stand behind their keys. -/
def plainMembers (members : List (String × Json)) : List (String × Json) :=
  members.filter fun m => !Printer.hasHeader m.2 && !Printer.isNull m.2

theorem intercalate_nothing {α : Type} (parts : List (List α)) :
    [].intercalate parts = parts.flatten := by
  induction parts with
  | nil => rfl
  | cons part parts ih =>
    match parts with
    | [] => simp
    | next :: parts =>
      rw [List.intercalate_cons_cons, ih, List.append_nil]
      rfl

theorem toList_plainLines (members : List (String × Json)) :
    ("".intercalate (Printer.plainLines members)).toList = (plainMembers members).flatMap line := by
  have each (m : String × Json) : (s!"{Printer.key m.1} = {Printer.value m.2}\n").toList =
      line m := by
    simp [line, toString]
  rw [String.toList_intercalate, String.toList_empty, intercalate_nothing, Printer.plainLines,
    List.map_map, List.flatMap_def]
  simp only [Function.comp_def, each]
  rfl

/-- A key that a table does not hold is missing still when another key was added. -/
theorem Section.notMem_content {s t : Section} {m : String × Json} {key : String}
    (content : t.content = s.content ++ [m]) (absent : key ∉ s.content.map (·.1))
    (other : key ≠ m.1) : key ∉ t.content.map (·.1) := by
  rw [content, List.map_append, List.mem_append, List.map_singleton, List.mem_singleton]
  rintro (known | same)
  · exact absent known
  · exact other same

theorem advances_lines {members : List (String × Json)}
    (bare : ∀ m ∈ members, Printer.isBare m.1 = true) (plain : ∀ m ∈ members, Plain m.2)
    (distinct : (members.map (·.1)).Nodup) {rebuild : Section → Section}
    (put : ∀ t change, Section.descend false change path (rebuild t) = (change t).map rebuild)
    {s : Section} (keyed : s.dotted = false) (new : ∀ m ∈ members, m.1 ∉ s.content.map (·.1)) :
    ∃ t : Section, Advances (members.flatMap line) ⟨rebuild s, path⟩ ⟨rebuild t, path⟩ ∧
      t.content = s.content ++ members := by
  induction members generalizing s with
  | nil => exact ⟨s, .refl _, by rw [List.append_nil]⟩
  | cons m members ih =>
    have here := new m List.mem_cons_self
    obtain ⟨first, others⟩ := List.nodup_cons.1 distinct
    have added : Section.descend false (Section.insert [] m.1 m.2) path (rebuild s) =
        some (rebuild (s.put m.1 (.value m.2))) := by
      have absent : Table.holds s.entries m.1 = false := by
        rw [Table.holds, Section.get?_of_notMem here]
        rfl
      rw [put]
      simp [Section.insert, Section.descend, keyed, absent]
    have content : (s.put m.1 (.value m.2)).content = s.content ++ [m] := by
      rw [Section.content_put here, Node.toJson]
    obtain ⟨t, later, same⟩ := ih (fun m member => bare m (List.mem_cons_of_mem _ member))
      (fun m member => plain m (List.mem_cons_of_mem _ member)) others
      ((Section.dotted_put s m.1 _).trans keyed) fun n member =>
        Section.notMem_content content (new n (List.mem_cons_of_mem _ member)) fun same =>
          first (List.mem_map.2 ⟨n, member, same⟩)
    have entered := advances_entry (bare m List.mem_cons_self) (plain m List.mem_cons_self)
      (p := ⟨rebuild s, path⟩) added
    have written : line m = m.1.toList ++ ' ' :: '=' :: ' ' ::
        ((Printer.value m.2).toList ++ ['\n']) := by
      rw [line, Printer.key, if_pos (bare m List.mem_cons_self)]
    refine ⟨t, ?_, by rw [same, content, List.append_assoc, List.singleton_append]⟩
    rw [List.flatMap_cons, written]
    exact entered.append later

end TrackerGateway.Toml
