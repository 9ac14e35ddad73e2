import TrackerGateway.Json.Basic
import TrackerGateway.Table

/-!
# The tables of a TOML document while it is read

A table can come to be in four ways: by a header, as a part of another's header, by a key of
several parts, or as an element of a list of tables. Which of them may be added to, and how,
depends on that; `Section.insert` and `Section.open?` refuse what would define something twice.
-/

namespace TrackerGateway.Toml

mutual

/-- What a key of a table stands for. -/
inductive Node where
  | value (json : Json)
  | table (content : Section)
  /-- A list of tables with at least one: the last, and those before it in reverse order. -/
  | tables (last : Section) (before : List Section)

/-- A table: whether it has only been a part of a key so far, whether by a key of several parts, and
what it holds. -/
inductive Section where
  | mk (implicit dotted : Bool) (entries : List (String × Node))

end

namespace Section

/-- A table that a header opens. -/
def fresh : Section := .mk false false []

/-- Whether the table has only been a part of a key so far. -/
def implicit : Section → Bool
  | .mk implicit _ _ => implicit

/-- Whether the table comes from a key of several parts. -/
def dotted : Section → Bool
  | .mk _ dotted _ => dotted

/-- What the table holds. -/
def entries : Section → List (String × Node)
  | .mk _ _ entries => entries

/-- The table with something under a key. -/
def put : Section → String → Node → Section
  | .mk implicit dotted entries, key, node => .mk implicit dotted (Table.put entries key node)

/-- Changes the table at a path below a table. Tables on the way that are not there are made, and
of a list of tables the last is taken. A key of several parts does not go into tables with a
header. -/
def descend (byKey : Bool) (change : Section → Option Section) :
    List String → Section → Option Section
  | [], s => change s
  | key :: path, s =>
    match Table.get? s.entries key with
    | none => do s.put key (.table (← descend byKey change path (.mk true byKey [])))
    | some (.value _) => none
    | some (.tables last before) => do
      s.put key (.tables (← descend byKey change path last) before)
    | some (.table child) =>
      if byKey && !child.implicit then none
      else do s.put key (.table (← descend byKey change path child))

/-- Adds a value under a key of one or several parts. -/
def insert (path : List String) (key : String) (value : Json) (s : Section) : Option Section :=
  descend true (fun s =>
    if s.dotted == path.isEmpty then none
    else if Table.holds s.entries key then none
    else some (s.put key (.value value))) path s

/-- Opens the table of a header. One that has only been a part of headers so far is taken on. -/
def open? (path : List String) (key : String) (s : Section) : Option Section :=
  descend false (fun s =>
    match Table.get? s.entries key with
    | none => some (s.put key (.table fresh))
    | some (.table (.mk true false entries)) => some (s.put key (.table (.mk false false entries)))
    | some _ => none) path s

/-- Opens one more table of a list of tables. -/
def openNext? (path : List String) (key : String) (s : Section) : Option Section :=
  descend false (fun s =>
    match Table.get? s.entries key with
    | none => some (s.put key (.tables fresh []))
    | some (.tables last before) => some (s.put key (.tables fresh (last :: before)))
    | some _ => none) path s

end Section

mutual

/-- The value of a key. -/
def Node.toJson : Node → Json
  | .value json => json
  | .table s => s.toJson
  | .tables last before => .list (sectionsToJson before [last.toJson])

/-- A table as an object. -/
def Section.toJson : Section → Json
  | .mk _ _ entries => .object (entriesToJson entries)

/-- The keys of a table with their values. -/
def entriesToJson : List (String × Node) → List (String × Json)
  | [] => []
  | (key, node) :: rest => (key, node.toJson) :: entriesToJson rest

/-- Tables in reverse order, before others. -/
def sectionsToJson : List Section → List Json → List Json
  | [], seen => seen
  | s :: rest, seen => sectionsToJson rest (s.toJson :: seen)

end

end TrackerGateway.Toml
