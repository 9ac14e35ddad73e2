import TrackerGateway.Proofs.Text.Integers
import TrackerGateway.Toml.Reader

/-!
# What a document can say

The integers that are read from a document have 64 bits with a sign, and no table that is read has
a key twice (`proper_of_parse`). Both hold of the tables at every moment of reading: a change
somewhere below a table keeps them (`proper_descend`), and a scanner yields only values that have
them.
-/

namespace TrackerGateway

open Text.Integer (Range)

/-- A value that a document can hold. -/
inductive Json.Proper : Json → Prop where
  | null : Proper .null
  | bool (b : Bool) : Proper (.bool b)
  | integer {n : Int} (fits : (Range.signed 64).holds n = true) : Proper (.integer n)
  | float (x : Float) : Proper (.float x)
  | text (s : String) : Proper (.text s)
  | list {elements : List Json} (all : ∀ v ∈ elements, Proper v) : Proper (.list elements)
  | object {members : List (String × Json)} (distinct : (members.map (·.1)).Nodup)
    (all : ∀ m ∈ members, Proper m.2) : Proper (.object members)

namespace Table

variable {κ α : Type} [DecidableEq κ]

theorem mem_of_get? {table : Table κ α} {key : κ} {value : α}
    (found : get? table key = some value) : (key, value) ∈ table := by
  induction table with
  | nil => cases found
  | cons entry rest ih =>
    rw [get?] at found
    split at found
    · rename_i same
      cases found
      rw [← same]
      exact List.mem_cons_self
    · exact List.mem_cons_of_mem _ (ih found)

theorem eq_or_mem_of_mem_put {table : Table κ α} {key : κ} {value : α} {entry : κ × α}
    (member : entry ∈ put table key value) : entry = (key, value) ∨ entry ∈ table := by
  induction table with
  | nil => exact .inl (List.mem_singleton.1 member)
  | cons other rest ih =>
    rw [put] at member
    split at member
    · rcases List.mem_cons.1 member with same | later
      · exact .inl same
      · exact .inr (List.mem_cons_of_mem _ later)
    · rcases List.mem_cons.1 member with same | later
      · exact .inr (same ▸ List.mem_cons_self)
      · exact (ih later).imp id (List.mem_cons_of_mem _)

theorem nodup_keys_put {table : Table κ α} (distinct : (keys table).Nodup) (key : κ) (value : α) :
    (keys (put table key value)).Nodup := by
  rw [keys_put]
  split
  · exact distinct
  · rename_i unknown
    rw [holds_iff_mem_keys] at unknown
    rw [List.nodup_append]
    refine ⟨distinct, List.nodup_singleton key, ?_⟩
    intro k known other single same
    rw [List.mem_singleton.1 single] at same
    exact unknown (same ▸ known)

end Table

namespace Toml

/-! ### Tables while they are read -/

theorem entriesToJson_eq (entries : List (String × Node)) :
    entriesToJson entries = entries.map fun entry => (entry.1, entry.2.toJson) := by
  induction entries with
  | nil => rw [entriesToJson, List.map_nil]
  | cons entry rest ih => rw [entriesToJson, ih, List.map_cons]

theorem sectionsToJson_eq (before : List Section) (seen : List Json) :
    sectionsToJson before seen = (before.map Section.toJson).reverse ++ seen := by
  induction before generalizing seen with
  | nil => simp [sectionsToJson]
  | cons s rest ih => simp [sectionsToJson, ih]

namespace Section

theorem toJson_eq (s : Section) :
    s.toJson = .object (s.entries.map fun entry => (entry.1, entry.2.toJson)) := by
  obtain ⟨implicit, dotted, entries⟩ := s
  rw [Section.toJson, entriesToJson_eq]
  rfl

theorem entries_put (s : Section) (key : String) (node : Node) :
    (s.put key node).entries = Table.put s.entries key node := by
  obtain ⟨implicit, dotted, entries⟩ := s
  rfl

variable {s s' : Section} {key : String}

theorem proper_toJson_iff :
    s.toJson.Proper ↔ (Table.keys s.entries).Nodup ∧ ∀ entry ∈ s.entries,
        entry.2.toJson.Proper := by
  rw [toJson_eq]
  constructor
  · intro proper
    cases proper with
    | object distinct all =>
      rw [List.map_map] at distinct
      exact ⟨distinct, fun entry member => all _ (List.mem_map_of_mem member)⟩
  · rintro ⟨distinct, all⟩
    refine .object ?_ ?_
    · rw [List.map_map]
      exact distinct
    · intro m member
      obtain ⟨entry, among, rfl⟩ := List.mem_map.1 member
      exact all entry among

theorem proper_new (implicit dotted : Bool) : (Section.mk implicit dotted []).toJson.Proper :=
  proper_toJson_iff.2 ⟨List.nodup_nil, by simp [Section.entries]⟩

theorem proper_put (proper : s.toJson.Proper) {node : Node} (new : node.toJson.Proper) :
    (s.put key node).toJson.Proper := by
  rw [proper_toJson_iff] at proper ⊢
  rw [entries_put]
  refine ⟨Table.nodup_keys_put proper.1 key node, ?_⟩
  intro entry member
  rcases Table.eq_or_mem_of_mem_put member with rfl | known
  · exact new
  · exact proper.2 entry known

theorem proper_of_get? (proper : s.toJson.Proper) {node : Node}
    (found : Table.get? s.entries key = some node) : node.toJson.Proper :=
  (proper_toJson_iff.1 proper).2 _ (Table.mem_of_get? found)

theorem proper_table (proper : s.toJson.Proper) : (Node.table s).toJson.Proper := by
  rwa [Node.toJson]

theorem proper_tables_iff {last : Section} {before : List Section} :
    (Node.tables last before).toJson.Proper ↔ last.toJson.Proper ∧ ∀ s ∈ before,
        s.toJson.Proper := by
  rw [Node.toJson, sectionsToJson_eq]
  constructor
  · intro proper
    cases proper with
    | list all =>
      refine ⟨all _ (by simp), ?_⟩
      intro s member
      apply all
      simp only [List.mem_append, List.mem_reverse, List.mem_map]
      exact .inl ⟨s, member, rfl⟩
  · rintro ⟨proper, all⟩
    refine .list ?_
    intro v member
    simp only [List.mem_append, List.mem_reverse, List.mem_map, List.mem_singleton] at member
    rcases member with ⟨s, among, rfl⟩ | rfl
    · exact all s among
    · exact proper

/-- A change below a table leaves it proper if it leaves the table that it is made in proper. -/
theorem proper_descend {byKey : Bool} {change : Section → Option Section}
    (keeps : ∀ s s' : Section, s.toJson.Proper → change s = some s' → s'.toJson.Proper)
    (path : List String) (proper : s.toJson.Proper)
    (changed : descend byKey change path s = some s') : s'.toJson.Proper := by
  induction path generalizing s s' with
  | nil => exact keeps s s' proper changed
  | cons key path ih =>
    rw [descend] at changed
    -- Under the key there is nothing yet, a value, a list of tables or a table.
    split at changed
    · obtain ⟨child, below, made⟩ := Option.bind_eq_some_iff.1 changed
      cases made
      exact proper_put proper (proper_table (ih (proper_new true byKey) below))
    · cases changed
    · rename_i last before found
      obtain ⟨child, below, made⟩ := Option.bind_eq_some_iff.1 changed
      cases made
      obtain ⟨here, others⟩ := proper_tables_iff.1 (proper_of_get? proper found)
      exact proper_put proper (proper_tables_iff.2 ⟨ih here below, others⟩)
    · rename_i child found
      split at changed
      · cases changed
      · obtain ⟨child', below, made⟩ := Option.bind_eq_some_iff.1 changed
        cases made
        have here := proper_of_get? proper found
        rw [Node.toJson] at here
        exact proper_put proper (proper_table (ih here below))

theorem proper_insert {path : List String} {value : Json} (new : value.Proper)
    (proper : s.toJson.Proper) (changed : s.insert path key value = some s') :
    s'.toJson.Proper := by
  refine proper_descend ?_ path proper changed
  intro t t' here change
  split at change
  · cases change
  split at change
  · cases change
  cases change
  refine proper_put here ?_
  rwa [Node.toJson]

theorem proper_open? {path : List String} (proper : s.toJson.Proper)
    (changed : s.open? path key = some s') : s'.toJson.Proper := by
  refine proper_descend ?_ path proper changed
  intro t t' here change
  split at change
  · cases change
    exact proper_put here (proper_table (proper_new false false))
  · rename_i entries found
    cases change
    have content := proper_of_get? here found
    rw [Node.toJson] at content
    exact proper_put here (proper_table (proper_toJson_iff.2 (proper_toJson_iff.1 content)))
  · cases change

theorem proper_openNext? {path : List String} (proper : s.toJson.Proper)
    (changed : s.openNext? path key = some s') : s'.toJson.Proper := by
  refine proper_descend ?_ path proper changed
  intro t t' here change
  split at change
  · cases change
    exact proper_put here (proper_tables_iff.2 ⟨proper_new false false, by simp⟩)
  · rename_i last before found
    cases change
    obtain ⟨content, others⟩ := proper_tables_iff.1 (proper_of_get? here found)
    refine proper_put here (proper_tables_iff.2 ⟨proper_new false false, ?_⟩)
    intro s member
    rcases List.mem_cons.1 member with rfl | old
    · exact content
    · exact others s old
  · cases change

end Section

/-! ### Values -/

namespace Number

theorem holds_of_integer? {word : List Char} {n : Int} (read : integer? word = some n) :
    (Range.signed 64).holds n = true := by
  have ranged {radix : Nat} {text : List Char} {n : Int}
      (known : (Text.Integer.read (.signed 64) radix text).toOption = some n) :
      (Range.signed 64).holds n = true := by
    cases result : Text.Integer.read (.signed 64) radix text with
    | error fault =>
      rw [result] at known
      cases known
    | ok m =>
      rw [result] at known
      cases known
      exact ((Text.Integer.read_eq_ok_iff (by decide) (by decide)).1 result).2
  have radix {radix : Nat} {digits : List Char} (known : inRadix? radix digits = some n) :
      (Range.signed 64).holds n = true := by
    rw [inRadix?] at known
    split at known
    · exact ranged known
    · cases known
  unfold integer? at read
  split at read
  · exact radix read
  · exact radix read
  · exact radix read
  · split at read
    · exact ranged read
    · cases read

theorem proper_of_value? {word : List Char} {v : Json} (read : value? word = some v) :
    v.Proper := by
  unfold value? at read
  split at read
  · cases read
    exact .object (List.nodup_singleton _) (by simp [Json.Proper.text])
  · cases whole : integer? word with
    | some n =>
      rw [whole] at read
      cases read
      exact .integer (holds_of_integer? whole)
    | none =>
      rw [whole] at read
      obtain ⟨x, -, rfl⟩ := Option.map_eq_some_iff.1 read
      exact .float x

end Number

namespace Scan

variable {α β : Type}

/-- Whether everything that a scanner can yield has a property. -/
def Yields (scan : Scan α) (P : α → Prop) : Prop := ∀ cs a rest, scan cs = some (a, rest) → P a

theorem yields_true (scan : Scan α) : Yields scan fun _ => True := fun _ _ _ _ => trivial

theorem yields_pure {P : α → Prop} {a : α} (holds : P a) : Yields (pure a) P := by
  intro cs b rest found
  cases found
  exact holds

theorem yields_refuse {P : α → Prop} : Yields refuse P := by
  intro cs a rest found
  cases found

theorem Yields.bind {P : α → Prop} {Q : β → Prop} {first : Scan α} {next : α → Scan β}
    (h : Yields first P) (hnext : ∀ a, P a → Yields (next a) Q) : Yields (first >>= next) Q := by
  intro cs b rest found
  obtain ⟨⟨a, between⟩, before, after⟩ := Option.bind_eq_some_iff.1 found
  exact hnext a (h cs a between before) between b rest after

/-- What is read first does not matter. -/
theorem yields_bind {Q : β → Prop} {first : Scan α} {next : α → Scan β}
    (hnext : ∀ a, Yields (next a) Q) : Yields (first >>= next) Q :=
  (yields_true first).bind fun a _ => hnext a

theorem Yields.map {P : α → Prop} {Q : β → Prop} {scan : Scan α} {f : α → β} (h : Yields scan P)
    (hf : ∀ a, P a → Q (f a)) : Yields (f <$> scan) Q := by
  intro cs b rest found
  obtain ⟨⟨a, left⟩, before, after⟩ := Option.bind_eq_some_iff.1 found
  cases after
  exact hf a (h cs a _ before)

theorem yields_value? (word : List Char) :
    Yields (match Number.value? word with | some value => pure value | none => refuse)
        Json.Proper := by
  cases read : Number.value? word with
  | some v => exact yields_pure (Number.proper_of_value? read)
  | none => exact yields_refuse

theorem yields_number : Yields number Json.Proper := by
  refine yields_bind fun word => yields_bind fun after => ?_
  split
  · split
    · exact yields_bind fun _ => yields_bind fun time => yields_value? _
    · exact yields_value? _
  · exact yields_value? _

theorem yields_keyword : Yields keyword Json.Proper := by
  refine yields_bind fun word => ?_
  split
  · exact yields_pure (.bool true)
  · exact yields_pure (.bool false)
  · split
    · exact yields_pure (.float _)
    · exact yields_refuse

variable {value : Scan Json}

theorem yields_elements (proper : Yields value Json.Proper) (fuel : Nat) :
    Yields (elements value fuel) fun found => ∀ v ∈ found, v.Proper := by
  induction fuel with
  | zero => exact yields_refuse
  | succ fuel ih =>
    refine yields_bind fun _ => yields_bind fun closed => ?_
    split
    · exact yields_pure (by simp)
    · refine proper.bind fun element here => yields_bind fun _ => yields_bind fun goesOn => ?_
      split
      · exact ih.bind fun more others => yields_pure (List.forall_mem_cons.2 ⟨here, others⟩)
      · exact yields_bind fun _ => yields_pure (List.forall_mem_cons.2 ⟨here, by simp⟩)

theorem yields_keyValue (proper : Yields value Json.Proper) :
    Yields (keyValue value) fun found => found.2.2.Proper := by
  refine yields_bind fun key => yields_bind fun _ => yields_bind fun _ => ?_
  exact proper.bind fun v here => yields_pure here

theorem yields_members (proper : Yields value Json.Proper) (fuel : Nat) {s : Section}
    (sound : s.toJson.Proper) : Yields (members value fuel s) fun found => found.toJson.Proper := by
  induction fuel generalizing s with
  | zero => exact yields_refuse
  | succ fuel ih =>
    refine (yields_keyValue proper).bind fun entry here => ?_
    have added : Yields (addTo s entry.1 entry.2.1 entry.2.2) fun found => found.toJson.Proper := by
      unfold addTo
      split
      · rename_i s' changed
        exact yields_pure (Section.proper_insert here sound changed)
      · exact yields_refuse
    refine added.bind fun s' sound' => yields_bind fun _ => yields_bind fun goesOn => ?_
    split
    · exact ih sound'
    · exact yields_bind fun _ => yields_pure sound'

theorem yields_nested (proper : Yields value Json.Proper) : Yields (nested value) Json.Proper := by
  refine yields_bind fun isList => ?_
  split
  · exact yields_bind fun _ => (yields_elements proper _).map fun _ all => .list all
  · refine yields_bind fun _ => yields_bind fun _ => yields_bind fun empty => ?_
    split
    · exact yields_pure (.object List.nodup_nil (by simp))
    · exact yields_bind fun _ =>
        (yields_members proper _ (Section.proper_new false false)).map fun _ sound => sound

theorem yields_valueOver {inner : Option (Scan Json)}
    (proper : ∀ value ∈ inner, Yields value Json.Proper) :
    Yields (valueOver inner) Json.Proper := by
  refine yields_bind fun next => ?_
  split
  · exact (yields_true _).map fun s _ => .text s
  · exact (yields_true _).map fun s _ => .text s
  · split
    · split
      · exact yields_nested (proper _ rfl)
      · exact yields_refuse
    · split
      · exact yields_number
      · split
        · exact yields_keyword
        · exact yields_refuse
  · exact yields_refuse

theorem yields_valueWithin (depth : Nat) : Yields (valueWithin depth) Json.Proper := by
  induction depth with
  | zero => exact yields_valueOver (by simp)
  | succ depth ih => exact yields_valueOver (by simpa using ih)

/-! ### Documents -/

theorem yields_header {p : Progress} (sound : p.root.toJson.Proper) :
    Yields (header p) fun found => found.root.toJson.Proper := by
  refine yields_bind fun isList => yields_bind fun key => yields_bind fun _ => ?_
  have keeps (root : Section) (changed : (if isList then p.root.openNext? key.1 key.2
      else p.root.open? key.1 key.2) = some root) : root.toJson.Proper := by
    split at changed
    · exact Section.proper_openNext? sound changed
    · exact Section.proper_open? sound changed
  cases isList with
  | false =>
    refine yields_bind fun _ => ?_
    split
    · rename_i root opened
      exact yields_pure (keeps root opened)
    · exact yields_refuse
  | true =>
    refine yields_bind fun _ => yields_bind fun _ => ?_
    split
    · rename_i root opened
      exact yields_pure (keeps root opened)
    · exact yields_refuse

theorem yields_entry {p : Progress} (sound : p.root.toJson.Proper) :
    Yields (entry p) fun found => found.root.toJson.Proper := by
  refine (yields_keyValue (yields_valueWithin _)).bind fun entry here => yields_bind fun _ => ?_
  split
  · rename_i root changed
    refine yields_pure (Section.proper_descend ?_ p.current sound changed)
    exact fun s s' before change => Section.proper_insert here before change
  · exact yields_refuse

theorem yields_expressions (fuel : Nat) {p : Progress} (sound : p.root.toJson.Proper) :
    Yields (expressions fuel p) fun found => found.root.toJson.Proper := by
  induction fuel generalizing p with
  | zero => exact yields_refuse
  | succ fuel ih =>
    -- A comment, the end of a line and the end of the document are passed over alike.
    have passed : Yields (do
        comment
        if ← lineEnd? then expressions fuel p
        else if (← peek).isSome then refuse
        else pure p) fun found => found.root.toJson.Proper := by
      refine yields_bind fun _ => yields_bind fun ended => ?_
      split
      · exact ih sound
      · refine yields_bind fun next => ?_
        split
        · exact yields_refuse
        · exact yields_pure sound
    refine yields_bind fun _ => yields_bind fun next => ?_
    split
    · exact yields_pure sound
    · exact yields_bind fun _ => (yields_header sound).bind fun p' sound' => ih sound'
    · exact passed
    · exact passed
    · exact passed
    · exact (yields_entry sound).bind fun p' sound' => ih sound'

end Scan

theorem proper_of_finished {cs : List Char} {j : Json}
    (read : (match Scan.expressions (cs.length + 2) ⟨.fresh, []⟩ cs with
      | some (p, []) => some p.root.toJson
      | _ => none) = some j) : j.Proper := by
  split at read
  · rename_i p known
    cases read
    exact Scan.yields_expressions _ (Section.proper_new false false) _ p _ known
  · cases read

/-- What is read from a document is proper. -/
theorem proper_of_parse {document : String} {j : Json} (read : parse? document = some j) :
    j.Proper :=
  proper_of_finished read

end Toml
end TrackerGateway
