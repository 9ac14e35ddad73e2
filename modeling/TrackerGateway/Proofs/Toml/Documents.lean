import TrackerGateway.Proofs.Toml.Lines

/-!
# Documents come back as they were written

The plain values of a table go into the table that stands at the path of the last header; the
headers below open the tables in it, in the order of the members (`Adds`). How deep they go is
told by the room that is left below a table, and what is written there is known from what is
written with less room (`written`). What is read is the object that was written, with the plain
values of each table before its tables (`parse?_document`).
-/

namespace TrackerGateway.Toml

open Toml.Scan

variable {text : List Char} {path : List String} {last : String} {root : Section}

/-! ### Tables -/

/-- A value that is read back from a document: tables with keys that need no quotes, none of them
twice, lists of tables, and plain values; `room` bounds how deep the tables go. -/
inductive Tidy : Nat → Json → Prop where
  | plain {room : Nat} {j : Json} (plain : Plain j) : Tidy room j
  | table {room : Nat} {members : List (String × Json)} (distinct : (members.map (·.1)).Nodup)
    (bare : ∀ m ∈ members, Printer.isBare m.1 = true) (all : ∀ m ∈ members, Tidy room m.2) :
    Tidy (room + 1) (.object members)
  | tables {room : Nat} {elements : List Json} (some_there : elements ≠ [])
    (tables : ∀ v ∈ elements, Printer.isTable v = true) (all : ∀ v ∈ elements, Tidy room v) :
    Tidy room (.list elements)

mutual

/-- A value with the plain values of each table before its tables. -/
def arranged : Json → Json
  | .object members => .object (plainMembers members ++ arrangedTables members)
  | .list elements => .list (arrangedElements elements)
  | j => j

/-- The members of a table that are written under headers. -/
def arrangedTables : List (String × Json) → List (String × Json)
  | [] => []
  | (key, v) :: rest =>
    if Printer.hasHeader v then (key, arranged v) :: arrangedTables rest else arrangedTables rest

/-- The elements of a list, each arranged. -/
def arrangedElements : List Json → List Json
  | [] => []
  | v :: rest => arranged v :: arrangedElements rest

end

/-- Blocks behind the line before them. -/
def behind (blocks : List String) : List Char := blocks.flatMap fun block => '\n' :: block.toList

theorem behind_append (blocks more : List String) :
    behind (blocks ++ more) = behind blocks ++ behind more :=
  List.flatMap_append

/-- Some lines add members to the table at a path, wherever the reader was before. A table that
was not there yet is there if a member was added. -/
def Adds (text : List Char) (path : List String) (rebuild : Section → Section) (root s : Section)
    (more : List (String × Json)) : Prop :=
  ∀ current, ∃ root' s' current', Advances text ⟨root, current⟩ ⟨root', current'⟩ ∧
    Section.Stands path rebuild root' s' ∧ s'.content = s.content ++ more ∧
    (root = rebuild s ∨ more ≠ [] → root' = rebuild s')

variable {rebuild : Section → Section} {s : Section}

theorem Adds.nothing (stands : Section.Stands path rebuild root s) :
    Adds [] path rebuild root s [] := by
  intro current
  refine ⟨root, s, current, .refl _, stands, by rw [List.append_nil], ?_⟩
  rintro (same | wrong)
  · exact same
  · exact absurd rfl wrong

theorem Adds.append {text text' : List Char} {more more' : List (String × Json)}
    (first : Adds text path rebuild root s more)
    (second : ∀ root' s' : Section, Section.Stands path rebuild root' s' →
      s'.content = s.content ++ more → Adds text' path rebuild root' s' more') :
    Adds (text ++ text') path rebuild root s (more ++ more') := by
  intro current
  obtain ⟨root', s', current', reads, stands, content, there⟩ := first current
  obtain ⟨root'', s'', current'', reads', stands', content', there'⟩ :=
    second root' s' stands content current'
  refine ⟨root'', s'', current'', reads.append reads', stands',
    by rw [content', content, List.append_assoc], ?_⟩
  intro known
  -- If the second lines add nothing, it rests with the first ones.
  apply there'
  by_cases none : more' = []
  · subst none
    rw [List.append_nil] at known
    exact .inl (there known)
  · exact .inr none

/-- The members of a table that are read back. -/
structure Orderly (room : Nat) (members : List (String × Json)) : Prop where
  distinct : (members.map (·.1)).Nodup
  bare : ∀ m ∈ members, Printer.isBare m.1 = true
  all : ∀ m ∈ members, Tidy room m.2

theorem Tidy.hasHeader {room : Nat} {j : Json} (tidy : Tidy room j)
    (headed : Printer.hasHeader j = false) : Plain j ∧ Printer.isNull j = false := by
  cases tidy with
  | plain plain => exact ⟨plain, by cases plain <;> rfl⟩
  | table distinct bare all => cases headed
  | tables some_there tables all =>
    simp only [Printer.hasHeader, Bool.and_eq_false_iff, Bool.not_eq_false', List.isEmpty_iff,
      some_there, false_or] at headed
    rw [List.all_eq_true.2 tables] at headed
    cases headed

theorem mem_plainMembers {members : List (String × Json)} {m : String × Json}
    (member : m ∈ plainMembers members) : m ∈ members ∧ Printer.hasHeader m.2 = false := by
  obtain ⟨among, plain⟩ := List.mem_filter.1 member
  exact ⟨among, by simpa using (Bool.and_eq_true_iff.1 plain).1⟩

/-- What holds of the headers below a table of some room. -/
def Written (room : Nat) : Prop :=
  ∀ {members : List (String × Json)} {path : List String} {rebuild : Section → Section}
    {root s : Section},
    Orderly room members → (∀ key ∈ path, Printer.isBare key = true) →
    path.length + room < depthLimit →
    Section.Stands path rebuild root s →
    (∀ m ∈ members, Printer.hasHeader m.2 = true → m.1 ∉ s.content.map (·.1)) →
    Adds (behind (Printer.nestedBlocks path members)) path rebuild root s (arrangedTables members)

/-- The lines of a table behind its header. -/
theorem advances_table {room : Nat} (written : Written room) {members : List (String × Json)}
    (orderly : Orderly room members) (bare : ∀ key ∈ path, Printer.isBare key = true)
    (within : path.length + room < depthLimit)
    (stands : Section.Stands path rebuild (rebuild .fresh) .fresh) :
    ∃ t current, Advances
      ((plainMembers members).flatMap line ++ behind (Printer.nestedBlocks path members))
      ⟨rebuild .fresh, path⟩ ⟨rebuild t, current⟩ ∧ t.toJson = arranged (.object members) := by
  have distinct : ((plainMembers members).map (·.1)).Nodup :=
    orderly.distinct.sublist (List.filter_sublist.map _)
  obtain ⟨t, lines, own⟩ := advances_lines
    (fun m member => orderly.bare m (mem_plainMembers member).1)
    (fun m member => ((orderly.all m (mem_plainMembers member).1).hasHeader
      (mem_plainMembers member).2).1)
    distinct stands.put (s := .fresh) rfl fun m _ => List.not_mem_nil
  rw [show Section.fresh.content = [] from rfl, List.nil_append] at own
  have apart : ∀ m ∈ members, Printer.hasHeader m.2 = true → m.1 ∉ t.content.map (·.1) := by
    intro m member headed among
    rw [own] at among
    obtain ⟨n, plain, same⟩ := List.mem_map.1 among
    obtain ⟨other, unheaded⟩ := mem_plainMembers plain
    rw [List.inj_on_of_nodup_map orderly.distinct other member same, headed] at unheaded
    cases unheaded
  obtain ⟨root', t', current, nested, -, content, there⟩ :=
    written orderly bare within (stands.replaced t) apart path
  refine ⟨t', current, ?_, by rw [Section.toJson_eq_content, content, own, arranged]⟩
  rw [← there (.inl rfl)]
  exact lines.append nested

theorem adds_put {key : String} {j : Json} (stands : Section.Stands path rebuild root s)
    (new : key ∉ s.content.map (·.1))
    (reads : ∀ current, ∃ node current',
      Advances text ⟨root, current⟩ ⟨rebuild (s.put key node), current'⟩ ∧ node.toJson = j) :
    Adds text path rebuild root s [(key, j)] := by
  intro current
  obtain ⟨node, current', advances, same⟩ := reads current
  exact ⟨_, s.put key node, current', advances, stands.replaced _,
    by rw [Section.content_put new, same], fun _ => rfl⟩

theorem arrangedTables_ne_nil {room : Nat} {members : List (String × Json)}
    (orderly : Orderly room members) (some_there : members ≠ [])
    (headed : plainMembers members = []) : arrangedTables members ≠ [] := by
  match members, some_there with
  | m :: members, _ =>
    have tidy := orderly.all m List.mem_cons_self
    have header : Printer.hasHeader m.2 = true := by
      by_contra unheaded
      rw [Bool.not_eq_true] at unheaded
      refine List.filter_eq_nil_iff.1 headed m List.mem_cons_self ?_
      simp [unheaded, (tidy.hasHeader unheaded).2]
    rw [arrangedTables, if_pos header]
    exact List.cons_ne_nil _ _

theorem toList_header (path : List String) (members : List (String × Json)) :
    (s!"[{Printer.path path}]\n" ++ "".intercalate (Printer.plainLines members)).toList =
      '[' :: ((Printer.path path).toList ++ [']', '\n']) ++
          (plainMembers members).flatMap line := by
  rw [String.toList_append, toList_plainLines]
  simp [toString]

/-- A table in a table. Without plain values of its own it has no header. -/
theorem adds_table {room : Nat} (written : Written room) {key : String}
    {members : List (String × Json)} (orderly : Orderly room members)
    (bare : ∀ part ∈ path ++ [key], Printer.isBare part = true)
    (within : path.length + (room + 1) < depthLimit) (stands : Section.Stands path rebuild root s)
    (new : key ∉ s.content.map (·.1)) :
    Adds (behind (Printer.ownBlock (path ++ [key]) members ++ Printer.nestedBlocks
      (path ++ [key]) members)) path rebuild root s [(key, arranged (.object members))] := by
  have deeper : (path ++ [key]).length + room < depthLimit := by
    rw [List.length_append, List.length_singleton]
    omega
  have absent := Section.get?_of_notMem new
  refine adds_put stands new fun current => ?_
  unfold Printer.ownBlock
  dsimp only
  split
  -- A table that holds tables only comes to be by the headers of these.
  · rename_i headless
    rw [Bool.and_eq_true, Bool.not_eq_true', List.isEmpty_iff,
      List.isEmpty_eq_false_iff] at headless
    obtain ⟨noLines, some_there⟩ := headless
    have headed : plainMembers members = [] := List.map_eq_nil_iff.1 noLines
    obtain ⟨root', t, current', reads, -, content, there⟩ :=
      written orderly bare deeper (stands.below absent) (fun _ _ _ => List.not_mem_nil) current
    refine ⟨.table t, current', ?_, ?_⟩
    · rw [there (.inr (arrangedTables_ne_nil orderly some_there headed))] at reads
      exact reads
    · rw [Node.toJson, Section.toJson_eq_content, content, arranged, headed]
      rfl
  · obtain ⟨opened, inside⟩ := stands.opened absent
    have keys : Header path key := ⟨bare, by omega⟩
    obtain ⟨t, current', reads, same⟩ := advances_table written orderly bare deeper inside
    have header := advances_header (p := ⟨root, current⟩) keys opened
    refine ⟨.table t, current', ?_, by rw [Node.toJson, same]⟩
    have all := (advances_blank ⟨root, current⟩).append (header.append reads)
    rw [behind, List.singleton_append, List.flatMap_cons, toList_header]
    simpa [behind] using all

/-! ### Lists of tables -/

theorem toList_listHeader (path : List String) (members : List (String × Json)) :
    (s!"[[{Printer.path path}]]\n" ++ "".intercalate (Printer.plainLines members)).toList =
      '[' :: '[' :: ((Printer.path path).toList ++ [']', ']', '\n']) ++
          (plainMembers members).flatMap line := by
  rw [String.toList_append, toList_plainLines]
  simp [toString]

/-- One more table of a list. -/
theorem advances_element {room : Nat} (written : Written room) {key : String}
    {members : List (String × Json)} (orderly : Orderly room members)
    (bare : ∀ part ∈ path ++ [key], Printer.isBare part = true)
    (within : path.length + (room + 1) < depthLimit) (absent : Table.get? s.entries key = none)
    {seen : List Section} (stands : Section.Stands path rebuild root (s.withTables key seen))
    (current : List String) :
    ∃ t current', Advances (behind ((s!"[[{Printer.path (path ++ [key])}]]\n" ++
        "".intercalate (Printer.plainLines members)) :: Printer.nestedBlocks
          (path ++ [key]) members))
      ⟨root, current⟩ ⟨rebuild (s.withTables key (t :: seen)), current'⟩ ∧
      t.toJson = arranged (.object members) := by
  have deeper : (path ++ [key]).length + room < depthLimit := by
    rw [List.length_append, List.length_singleton]
    omega
  obtain ⟨opened, inside⟩ := stands.openedNext absent
  have keys : Header path key := ⟨bare, by omega⟩
  obtain ⟨t, current', reads, same⟩ := advances_table written orderly bare deeper inside
  have header := advances_listHeader (p := ⟨root, current⟩) keys opened
  refine ⟨t, current', ?_, same⟩
  have all := (advances_blank ⟨root, current⟩).append (header.append reads)
  rw [behind, List.flatMap_cons, toList_listHeader]
  simpa [behind] using all

theorem exists_members {v : Json} (table : Printer.isTable v = true) :
    ∃ members, v = .object members := by
  cases v with
  | object members => exact ⟨members, rfl⟩
  | _ => cases table

theorem Tidy.orderly {room : Nat} {members : List (String × Json)}
    (tidy : Tidy (room + 1) (.object members)) : Orderly room members := by
  cases tidy with
  | plain plain => cases plain
  | table distinct bare all => exact ⟨distinct, bare, all⟩

theorem advances_elements {room : Nat} (written : Written room) {key : String}
    {elements : List Json} (tidy : ∀ v ∈ elements, Printer.isTable v = true ∧ Tidy (room + 1) v)
    (bare : ∀ part ∈ path ++ [key], Printer.isBare part = true)
    (within : path.length + (room + 1) < depthLimit) (absent : Table.get? s.entries key = none)
    (put : ∀ t, Section.Stands path rebuild (rebuild t) t) (seen : List Section)
    (current : List String) :
    ∃ more current', Advances (behind (Printer.elementBlocks (path ++ [key]) elements))
      ⟨rebuild (s.withTables key seen), current⟩ ⟨rebuild (s.withTables key (more ++ seen)),
        current'⟩ ∧
      (more.map Section.toJson).reverse = arrangedElements elements := by
  induction elements generalizing seen current with
  | nil =>
    rw [Printer.elementBlocks]
    exact ⟨[], current, .refl _, rfl⟩
  | cons v elements ih =>
    obtain ⟨table, sound⟩ := tidy v List.mem_cons_self
    obtain ⟨members, rfl⟩ := exists_members table
    have orderly := sound.orderly
    obtain ⟨t, between, first, same⟩ :=
      advances_element written orderly bare within absent (put (s.withTables key seen)) current
    obtain ⟨more, current', later, others⟩ :=
      ih (fun v member => tidy v (List.mem_cons_of_mem _ member)) (t :: seen) between
    refine ⟨more ++ [t], current', ?_, by
      rw [List.map_append, List.reverse_append, others, arrangedElements, ← same]; rfl⟩
    rw [Printer.elementBlocks, ← List.cons_append, behind_append, List.append_assoc,
      List.singleton_append]
    exact first.append later

/-- A list of tables in a table. -/
theorem adds_tables {room : Nat} (written : Written room) {key : String} {elements : List Json}
    (some_there : elements ≠ [])
    (tidy : ∀ v ∈ elements, Printer.isTable v = true ∧ Tidy (room + 1) v)
    (bare : ∀ part ∈ path ++ [key], Printer.isBare part = true)
    (within : path.length + (room + 1) < depthLimit) (stands : Section.Stands path rebuild root s)
    (new : key ∉ s.content.map (·.1)) :
    Adds (behind (Printer.elementBlocks (path ++ [key]) elements)) path rebuild root s
      [(key, arranged (.list elements))] := by
  have absent := Section.get?_of_notMem new
  refine adds_put stands new fun current => ?_
  match elements, some_there with
  | v :: elements, _ =>
    obtain ⟨table, sound⟩ := tidy v List.mem_cons_self
    obtain ⟨members, rfl⟩ := exists_members table
    have orderly := sound.orderly
    have empty : Section.Stands path rebuild root (s.withTables key []) := stands
    obtain ⟨t, between, first, same⟩ :=
      advances_element written orderly bare within absent empty current
    obtain ⟨more, current', later, others⟩ :=
      advances_elements written (fun v member => tidy v (List.mem_cons_of_mem _ member)) bare
        within absent stands.replaced [t] between
    obtain ⟨last, before, shape⟩ : ∃ last before, more ++ [t] = last :: before :=
      List.exists_cons_of_ne_nil (List.append_ne_nil_of_right_ne_nil more (List.cons_ne_nil t []))
    refine ⟨.tables last before, current', ?_, ?_⟩
    · rw [shape] at later
      rw [Printer.elementBlocks, ← List.cons_append, behind_append]
      exact first.append later
    · rw [Node.toJson, sectionsToJson_eq, arranged, arrangedElements, ← same, ← others]
      have all : ((last :: before).map Section.toJson).reverse =
          ((more ++ [t]).map Section.toJson).reverse := by
        rw [shape]
      simpa using all

/-! ### Tables in a table -/

theorem Orderly.tail {room : Nat} {m : String × Json} {members : List (String × Json)}
    (orderly : Orderly room (m :: members)) : Orderly room members where
  distinct := (List.nodup_cons.1 orderly.distinct).2
  bare n member := orderly.bare n (List.mem_cons_of_mem _ member)
  all n member := orderly.all n (List.mem_cons_of_mem _ member)

theorem nestedBlocks_plain {j : Json} (plain : Plain j) (path : List String) (key : String)
    (members : List (String × Json)) :
    Printer.nestedBlocks path ((key, j) :: members) = Printer.nestedBlocks path members := by
  cases plain with
  | empty =>
    rw [Printer.nestedBlocks, if_neg (by decide)]
    rfl
  | _ => simp [Printer.nestedBlocks]

/-- What is written for one member carries over to all. -/
theorem written_of_each {room : Nat}
    (each : ∀ {path : List String} {rebuild : Section → Section} {root s : Section} {key : String}
      {v : Json}, Tidy room v → Printer.hasHeader v = true →
      (∀ part ∈ path ++ [key], Printer.isBare part = true) →
      path.length + room < depthLimit → Section.Stands path rebuild root s →
      key ∉ s.content.map (·.1) → ∃ blocks,
        (∀ members, Printer.nestedBlocks path ((key, v) :: members) =
          blocks ++ Printer.nestedBlocks path members) ∧
        Adds (behind blocks) path rebuild root s [(key, arranged v)]) : Written room := by
  intro members path rebuild root s orderly bare within stands new
  induction members generalizing root s with
  | nil =>
    rw [Printer.nestedBlocks, arrangedTables]
    exact .nothing stands
  | cons m members ih =>
    obtain ⟨key, v⟩ := m
    have others : ∀ m ∈ members, Printer.hasHeader m.2 = true → m.1 ∉ s.content.map (·.1) :=
      fun m member => new m (List.mem_cons_of_mem _ member)
    cases headed : Printer.hasHeader v with
    | false =>
      have plain := ((orderly.all (key, v) List.mem_cons_self).hasHeader headed).1
      rw [nestedBlocks_plain plain, arrangedTables, if_neg (by simp [headed])]
      exact ih orderly.tail stands others
    | true =>
      have keys : ∀ part ∈ path ++ [key], Printer.isBare part = true := by
        intro part member
        rcases List.mem_append.1 member with above | last
        · exact bare part above
        · rw [List.mem_singleton.1 last]
          exact orderly.bare (key, v) List.mem_cons_self
      obtain ⟨blocks, split, adds⟩ :=
        each (orderly.all (key, v) List.mem_cons_self) headed keys within stands
        (new (key, v) List.mem_cons_self headed)
      rw [split, behind_append, arrangedTables, if_pos headed, ← List.singleton_append]
      refine adds.append fun root' s' stands' content =>
        ih orderly.tail stands' fun m member headed => ?_
      exact Section.notMem_content content (others m member headed) fun same =>
        (List.nodup_cons.1 orderly.distinct).1 (List.mem_map.2 ⟨m, member, same⟩)

theorem written_zero : Written 0 := by
  -- Without room there are no tables, and so nothing that has a header.
  refine written_of_each fun tidy headed _ _ _ _ => ?_
  cases tidy with
  | plain plain => cases plain <;> cases headed
  | tables some_there tables all =>
    obtain ⟨v, member⟩ := List.exists_mem_of_ne_nil _ some_there
    obtain ⟨members, rfl⟩ := exists_members (tables v member)
    cases all _ member with
    | plain plain => cases plain

theorem written_succ {room : Nat} (written : Written room) : Written (room + 1) := by
  refine written_of_each fun {path _ _ _ key _} tidy headed bare within stands new => ?_
  cases tidy with
  | plain plain => cases plain <;> cases headed
  | @table _ members distinct keys all =>
    refine ⟨_, fun rest => ?_, adds_table written ⟨distinct, keys, all⟩ bare within stands new⟩
    rw [Printer.nestedBlocks]
  | @tables _ elements some_there tables all =>
    refine ⟨_, fun rest => ?_,
      adds_tables written some_there (fun v member => ⟨tables v member, all v member⟩) bare
      within stands new⟩
    rw [Printer.nestedBlocks, if_pos headed]

/-- Headers are read back as they were written, however deep they go. -/
theorem written (room : Nat) : Written room := by
  induction room with
  | zero => exact written_zero
  | succ room ih => exact written_succ ih

/-! ### Documents -/

theorem intercalate_cons (block : List Char) (blocks : List (List Char)) :
    ['\n'].intercalate (block :: blocks) = block ++ blocks.flatMap ('\n' :: ·) := by
  induction blocks generalizing block with
  | nil => simp
  | cons next blocks ih =>
    rw [List.intercalate_cons_cons, ih, List.append_assoc]
    rfl

/-- A document is its lines, except that there is no blank line at its beginning. -/
theorem toList_document (members : List (String × Json)) :
    let lines := (plainMembers members).flatMap line ++ behind (Printer.nestedBlocks [] members)
    (Printer.document members).toList = lines ∨ '\n' :: (Printer.document members).toList =
        lines := by
  have joined (blocks : List String) (block : String) :
      ("\n".intercalate (block :: blocks)).toList = block.toList ++ behind blocks := by
    have separator : "\n".toList = ['\n'] := rfl
    rw [String.toList_intercalate, List.map_cons, separator, intercalate_cons, List.flatMap_map]
    rfl
  have own := toList_plainLines members
  unfold Printer.document
  dsimp only
  split
  · rename_i noLines
    rw [noLines] at own
    rw [← own]
    cases Printer.nestedBlocks [] members with
    | nil => exact .inl rfl
    | cons block blocks =>
      rw [List.nil_append, joined]
      exact .inr rfl
  · rw [List.singleton_append, joined, own]
    exact .inl rfl

/-- No expression begins with a mark of byte order. -/
theorem expressions_mark (p : Progress) (fuel : Nat) (cs : List Char) :
    expressions (fuel + 1) p ('\ufeff' :: cs) = none := rfl

/-- A table that is written as a document is read from it, with the plain values of each table
before its tables. -/
theorem parse?_document {room : Nat} {members : List (String × Json)}
    (orderly : Orderly room members) (within : room < depthLimit) :
    parse? (Printer.document members) = some (arranged (.object members)) := by
  have within' : ([] : List String).length + room < depthLimit := by simpa using within
  obtain ⟨t, current, advances, same⟩ :=
    advances_table (written room) orderly (by simp) within' (Section.stands_root .fresh)
  have read : expressions ((Printer.document members).toList.length + 2) ⟨.fresh, []⟩
      (Printer.document members).toList = some (⟨t, current⟩, []) := by
    rcases toList_document members with shape | shape
    · rw [← shape] at advances
      exact advances.finished (by omega)
    · rw [← shape] at advances
      rw [← expressions_blank]
      exact advances.finished (by rw [List.length_cons]; omega)
  unfold parse?
  split
  -- What the lines are read from cannot begin with a mark.
  · rename_i cs marked
    rw [marked, expressions_mark] at read
    cases read
  · dsimp only
    rw [read, ← same]

/-! ### What is found in what was read -/

theorem arranged_of_plain {j : Json} (plain : Plain j) : arranged j = j := by
  cases plain <;> rfl

theorem arrangedTables_eq (members : List (String × Json)) :
    arrangedTables members = (members.filter fun m => Printer.hasHeader m.2).map fun m =>
      (m.1, arranged m.2) := by
  induction members with
  | nil => rfl
  | cons m members ih =>
    obtain ⟨key, v⟩ := m
    rw [arrangedTables, List.filter_cons]
    split
    · rw [List.map_cons, ih]
    · exact ih

/-- Arranging a table leaves every member in it, itself arranged. -/
theorem mem_arranged {room : Nat} {members : List (String × Json)} (orderly : Orderly room members)
    {m : String × Json} (member : m ∈ members) :
    (m.1, arranged m.2) ∈ plainMembers members ++ arrangedTables members := by
  rw [List.mem_append, arrangedTables_eq]
  cases headed : Printer.hasHeader m.2 with
  | true => exact .inr (List.mem_map.2 ⟨m, List.mem_filter.2 ⟨member, headed⟩, rfl⟩)
  | false =>
    obtain ⟨plain, notNull⟩ := (orderly.all m member).hasHeader headed
    rw [arranged_of_plain plain]
    exact .inl (List.mem_filter.2 ⟨member, by simp [headed, notNull]⟩)

theorem nodup_arranged {room : Nat} {members : List (String × Json)}
    (orderly : Orderly room members) :
    ((plainMembers members ++ arrangedTables members).map (·.1)).Nodup := by
  rw [List.map_append, arrangedTables_eq, List.map_map, List.nodup_append]
  refine ⟨orderly.distinct.sublist (List.filter_sublist.map _),
    orderly.distinct.sublist (List.filter_sublist.map _), ?_⟩
  intro key plain key' headed same
  obtain ⟨m, member, rfl⟩ := List.mem_map.1 plain
  obtain ⟨n, member', rfl⟩ := List.mem_map.1 headed
  obtain ⟨among, unheaded⟩ := mem_plainMembers member
  obtain ⟨among', header⟩ := List.mem_filter.1 member'
  rw [List.inj_on_of_nodup_map orderly.distinct among among' same, header] at unheaded
  cases unheaded

theorem member?_of_mem {members : List (String × Json)} (distinct : (members.map (·.1)).Nodup)
    {m : String × Json} (member : m ∈ members) : Json.member? m.1 members = some m.2 := by
  cases found : members.reverse.find? fun n => n.1 == m.1 with
  | none => exact absurd (List.find?_eq_none.1 found m (List.mem_reverse.2 member)) (by simp)
  | some n =>
    have same : n.1 = m.1 := by simpa using List.find?_some found
    have among : n ∈ members := List.mem_reverse.1 (List.mem_of_find?_eq_some found)
    rw [Json.member?, found, List.inj_on_of_nodup_map distinct among member same]
    rfl

/-- A member of a table that was written is found in what is read. -/
theorem member?_arranged {room : Nat} {members : List (String × Json)}
    (orderly : Orderly room members) {m : String × Json} (member : m ∈ members) :
    Json.member? m.1 (plainMembers members ++ arrangedTables members) = some (arranged m.2) :=
  member?_of_mem (nodup_arranged orderly) (mem_arranged orderly member)

theorem fits_of_tidy {room : Nat} {j : Json} (tidy : Tidy room j) : Printer.fits j = true := by
  have members {ms : List (String × Json)} (all : ∀ m ∈ ms, Printer.fits m.2 = true) :
      Printer.fitsMembers ms = true := by
    induction ms with
    | nil => rfl
    | cons m ms ih =>
      rw [Printer.fitsMembers, all m List.mem_cons_self,
        ih fun n member => all n (List.mem_cons_of_mem _ member)]
      rfl
  have elements {vs : List Json} (all : ∀ v ∈ vs, Printer.fits v = true) :
      Printer.fitsElements vs = true := by
    induction vs with
    | nil => rfl
    | cons v vs ih =>
      rw [Printer.fitsElements, all v List.mem_cons_self,
        ih fun w member => all w (List.mem_cons_of_mem _ member)]
      rfl
  induction tidy with
  | plain plain =>
    cases plain with
    | integer fits => rwa [Printer.fits]
    | _ => simp [Printer.fits, Printer.fitsElements]
  | table distinct bare all ih =>
    rw [Printer.fits]
    exact members ih
  | tables some_there tables all ih =>
    rw [Printer.fits]
    exact elements ih

end TrackerGateway.Toml
