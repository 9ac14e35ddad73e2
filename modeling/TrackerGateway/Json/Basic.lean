import TrackerGateway.Decimal.Shortest

/-!
# JSON values, and how they are written

An object keeps its members in order. `Json.compact` writes a value on one line, `Json.pretty` one
member or element a line. Numbers with a fraction use the exchange style, and those that are no
finite numbers become null.
-/

namespace TrackerGateway

/-- A JSON value. -/
inductive Json where
  | null
  | bool (value : Bool)
  | integer (value : Int)
  | float (value : Float)
  | text (value : String)
  | list (elements : List Json)
  | object (members : List (String × Json))

namespace Json

instance : Inhabited Json := ⟨.null⟩

/-- A character inside a JSON text. -/
def escape (c : Char) : List Char :=
  if c = '"' then ['\\', '"']
  else if c = '\\' then ['\\', '\\']
  else if c = '\n' then ['\\', 'n']
  else if c = '\r' then ['\\', 'r']
  else if c = '\t' then ['\\', 't']
  else if c.toNat = 8 then ['\\', 'b']
  else if c.toNat = 12 then ['\\', 'f']
  else if c.toNat < 16 then ['\\', 'u', '0', '0', '0', Nat.digitChar c.toNat]
  else if c.toNat < 32 then ['\\', 'u', '0', '0', '1', Nat.digitChar (c.toNat - 16)]
  else [c]

/-- A text in quotes. -/
def quoted (text : String) : String :=
  String.ofList ('"' :: text.toList.flatMap escape ++ ['"'])

/-- A number with a fraction. -/
def number (x : Float) : String :=
  if Binary64.isFinite x.toBits then Decimal.exchange.write x.toBits else "null"

/-- What stands around and between the parts of a list or an object. -/
structure Layout where
  /-- Before the first part and between the last part and the closing bracket. -/
  line : Nat → String
  /-- After a member's name. -/
  colon : String

/-- Everything on one line. -/
def Layout.oneLine : Layout := ⟨fun _ => "", ":"⟩

/-- Two blanks of indentation a level. -/
def Layout.indented : Layout :=
  ⟨fun depth => "\n" ++ String.ofList (List.replicate (2 * depth) ' '), ": "⟩

/-- The parts in brackets, each on a line of its own. -/
def bracketed (layout : Layout) (depth : Nat) (opening closing : String) (parts : List String) :
    String :=
  if parts.isEmpty then opening ++ closing
  else
    opening ++ layout.line (depth + 1) ++ ("," ++ layout.line (depth + 1)).intercalate parts ++
      layout.line depth ++ closing

mutual
/-- Writes a value that stands at a depth. -/
def write (layout : Layout) (depth : Nat) : Json → String
  | .null => "null"
  | .bool value => if value then "true" else "false"
  | .integer value => toString value
  | .float value => number value
  | .text value => quoted value
  | .list elements => bracketed layout depth "[" "]" (writeElements layout (depth + 1) elements)
  | .object members =>
    bracketed layout depth "\x7b" "\x7d" (writeMembers layout (depth + 1) members)

/-- Writes each element. -/
def writeElements (layout : Layout) (depth : Nat) : List Json → List String
  | [] => []
  | v :: rest => write layout depth v :: writeElements layout depth rest

/-- Writes each member. -/
def writeMembers (layout : Layout) (depth : Nat) : List (String × Json) → List String
  | [] => []
  | (k, v) :: rest =>
    (quoted k ++ layout.colon ++ write layout depth v) :: writeMembers layout depth rest
end

/-- Writes a value on one line. -/
def compact (value : Json) : String := write .oneLine 0 value

/-- Writes a value over several lines. -/
def pretty (value : Json) : String := write .indented 0 value

mutual
/-- The value with the members of every object in the order of their names. -/
def sorted : Json → Json
  | .list elements => .list (sortedElements elements)
  | .object members => .object ((sortedMembers members).mergeSort fun a b => decide (a.1 ≤ b.1))
  | v => v

/-- Sorts inside each element. -/
def sortedElements : List Json → List Json
  | [] => []
  | v :: rest => sorted v :: sortedElements rest

/-- Sorts inside each member. -/
def sortedMembers : List (String × Json) → List (String × Json)
  | [] => []
  | (k, v) :: rest => (k, sorted v) :: sortedMembers rest
end

/-- The last member of that name. -/
def member? (name : String) (members : List (String × Json)) : Option Json :=
  (members.reverse.find? fun m => m.1 == name).map (·.2)

end Json
end TrackerGateway
