import TrackerGateway.Proofs.Toml.Soundness

/-!
# Tables and their places in a document

A change at a path below the root is a change of one table and a way to put the changed table back
(`Stands`). Both are known for a table that is there and for one that a header will make. From the
place of a table follow the places of the tables in it: of one that has only been a part of
headers, of one that a header opens, and of the last of a list (`Stands.below`, `Stands.opened`,
`Stands.openedNext`).
-/

namespace TrackerGateway

namespace Table

variable {κ α : Type} [DecidableEq κ]

theorem put_put (table : Table κ α) (key : κ) (former value : α) :
    put (put table key former) key value = put table key value := by
  induction table with
  | nil => simp [put]
  | cons entry rest ih =>
    obtain ⟨k, v⟩ := entry
    by_cases same : k = key
    · simp [put, same]
    · simp [put, same, ih]

theorem put_of_new {table : Table κ α} {key : κ} (new : get? table key = none) (value : α) :
    put table key value = table ++ [(key, value)] := by
  induction table with
  | nil => rfl
  | cons entry rest ih =>
    obtain ⟨k, v⟩ := entry
    rw [get?] at new
    split at new
    · cases new
    · rename_i other
      rw [put, if_neg other, ih new, List.cons_append]

theorem get?_of_notMem {table : Table κ α} {key : κ} (new : key ∉ keys table) :
    get? table key = none := by
  rw [← Option.not_isSome_iff_eq_none]
  intro known
  exact new ((holds_iff_mem_keys table key).1 known)

end Table

namespace Toml.Section

variable {s t : Section} {key : String} {path : List String}

/-! ### What a table holds -/

/-- The keys of a table with their values. -/
def content (s : Section) : List (String × Json) :=
  s.entries.map fun entry => (entry.1, entry.2.toJson)

theorem toJson_eq_content (s : Section) : s.toJson = .object s.content := toJson_eq s

theorem get?_put (s : Section) (key : String) (node : Node) :
    Table.get? (s.put key node).entries key = some node := by
  rw [entries_put, Table.get?_put, if_pos rfl]

theorem put_put (s : Section) (key : String) (former node : Node) :
    (s.put key former).put key node = s.put key node := by
  obtain ⟨implicit, dotted, entries⟩ := s
  show Section.mk implicit dotted _ = Section.mk implicit dotted _
  rw [Table.put_put]

theorem get?_of_notMem (new : key ∉ s.content.map (·.1)) : Table.get? s.entries key = none := by
  refine Table.get?_of_notMem ?_
  rwa [content, List.map_map] at new

theorem content_put (new : key ∉ s.content.map (·.1)) (node : Node) :
    (s.put key node).content = s.content ++ [(key, node.toJson)] := by
  rw [content, entries_put, Table.put_of_new (get?_of_notMem new), List.map_append]
  rfl

theorem dotted_put (s : Section) (key : String) (node : Node) :
    (s.put key node).dotted = s.dotted := by
  obtain ⟨implicit, dotted, entries⟩ := s
  rfl

/-! ### Changes below a table -/

theorem descend_append (byKey : Bool) (change : Section → Option Section) (path : List String)
    (key : String) (s : Section) :
    descend byKey change (path ++ [key]) s = descend byKey (descend byKey change [key]) path s := by
  induction path generalizing s with
  | nil => rfl
  | cons part path ih =>
    rw [List.cons_append, descend, descend]
    split
    · rw [ih]
    · rfl
    · rw [ih]
    · rw [ih]

theorem descend_new (new : Table.get? s.entries key = none) (change : Section → Option Section) :
    descend false change [key] s = (change (.mk true false [])).map fun t =>
      s.put key (.table t) := by
  rw [descend, new, Option.map_eq_bind]
  rfl

theorem descend_table (found : Table.get? s.entries key = some (.table t))
    (change : Section → Option Section) :
    descend false change [key] s = (change t).map fun t => s.put key (.table t) := by
  rw [descend, found, Option.map_eq_bind]
  rfl

theorem descend_tables {before : List Section}
    (found : Table.get? s.entries key = some (.tables t before))
    (change : Section → Option Section) :
    descend false change [key] s = (change t).map fun t => s.put key (.tables t before) := by
  rw [descend, found, Option.map_eq_bind]
  rfl

/-! ### Places -/

/-- A table stands at a path below the root, and `rebuild` puts another one in its place. It may
be one that only the next header under the path will make. -/
structure Stands (path : List String) (rebuild : Section → Section) (root s : Section) : Prop where
  here : ∀ change, descend false change path root = (change s).map rebuild
  put : ∀ t change, descend false change path (rebuild t) = (change t).map rebuild

variable {rebuild : Section → Section} {root : Section}

theorem stands_root (root : Section) : Stands [] id root root where
  here change := by
    rw [Option.map_id]
    rfl
  put t change := by
    rw [Option.map_id]
    rfl

theorem Stands.replaced (stands : Stands path rebuild root s) (t : Section) :
    Stands path rebuild (rebuild t) t where
  here := stands.put t
  put := stands.put

/-- The place of a table in a table that stands somewhere. -/
theorem Stands.inside {wrap : Section → Section} (stands : Stands path rebuild root s)
    (first : ∀ change, descend false change [key] s = (change t).map wrap)
    (later : ∀ t change, descend false change [key] (wrap t) = (change t).map wrap) :
    Stands (path ++ [key]) (fun t => rebuild (wrap t)) root t where
  here change := by
    rw [descend_append, stands.here, first, Option.map_map]
    rfl
  put t change := by
    rw [descend_append, stands.put, later, Option.map_map]
    rfl

/-- A table that is only a part of headers. -/
theorem Stands.below (stands : Stands path rebuild root s) (new : Table.get? s.entries key = none) :
    Stands (path ++ [key]) (fun t => rebuild (s.put key (.table t))) root (.mk true false []) := by
  refine stands.inside (descend_new new) fun t change => ?_
  rw [descend_table (get?_put s key (.table t))]
  simp only [put_put]

/-- A table with a header of its own. -/
theorem Stands.opened (stands : Stands path rebuild root s)
    (new : Table.get? s.entries key = none) :
    root.open? path key = some (rebuild (s.put key (.table fresh))) ∧
      Stands (path ++ [key]) (fun t => rebuild (s.put key (.table t)))
        (rebuild (s.put key (.table fresh))) fresh := by
  constructor
  · rw [open?, stands.here]
    simp [new]
  · exact (stands.below new).replaced fresh

/-- The table with a list of tables under a key, the last one first; of no tables there is no
list. -/
def withTables (s : Section) (key : String) : List Section → Section
  | [] => s
  | last :: before => s.put key (.tables last before)

/-- One more table of a list. -/
theorem Stands.openedNext {seen : List Section}
    (stands : Stands path rebuild root (s.withTables key seen))
    (new : Table.get? s.entries key = none) :
    root.openNext? path key = some (rebuild (s.withTables key (fresh :: seen))) ∧
      Stands (path ++ [key]) (fun t => rebuild (s.withTables key (t :: seen)))
        (rebuild (s.withTables key (fresh :: seen))) fresh := by
  constructor
  · rw [openNext?, stands.here]
    -- The first table makes the list, and every other one is put in front of those before it.
    match seen with
    | [] => simp [withTables, new]
    | last :: before => simp [withTables, get?_put, put_put]
  · have last (t : Section) (change : Section → Option Section) :
        descend false change [key] (s.withTables key (t :: seen)) =
          (change t).map fun t' => s.withTables key (t' :: seen) := by
      rw [withTables, descend_tables (get?_put s key _)]
      simp only [put_put]
      rfl
    exact (stands.replaced _).inside (last fresh) last

end Toml.Section
end TrackerGateway
