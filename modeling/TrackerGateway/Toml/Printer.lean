import TrackerGateway.Json.Basic
import TrackerGateway.Text.Integer

/-!
# Writing TOML documents

An object is written as a table with its plain values first, then its tables and lists of tables,
each under a header of its own. A table that holds tables only has no header. What is null is left
out. `fits` tells what can be written: the integers of a document have 64 bits with a sign.
-/

namespace TrackerGateway.Toml.Printer

/-! ### Texts -/

/-- What has to be known of a text to choose its form. -/
structure Traits where
  /-- The longest run of single quotes. -/
  singles : Nat
  /-- The longest run of double quotes. -/
  doubles : Nat
  /-- Whether there are characters that only escapes can write. -/
  controls : Bool
  backslashes : Bool
  lines : Bool
  deriving DecidableEq, Repr

/-- The longest run of a character. -/
def longestRun (c : Char) (cs : List Char) : Nat :=
  (cs.foldl (fun (best, run) d => if d = c then (max best (run + 1), run + 1)
    else (best, 0)) (0, 0)).1

/-- Whether a character can only be written as an escape. -/
def isControl (c : Char) : Bool := (c.toNat < 32 && c != '\t' && c != '\n') || c.toNat == 127

/-- The traits of a text. -/
def Traits.of (cs : List Char) : Traits :=
  { singles := longestRun '\'' cs
    doubles := longestRun '"' cs
    controls := cs.any isControl
    backslashes := cs.contains '\\'
    lines := cs.contains '\n' }

/-- The forms of a text: whether escapes are known, and whether it may go over line ends. -/
structure Form where
  escapes : Bool
  lines : Bool
  deriving DecidableEq, Repr

/-- The form of a text: the simplest that needs no escapes, in double quotes rather than in single
ones and on one line rather than on several; else with escapes. -/
def Traits.form (t : Traits) : Form :=
  if !t.controls && !t.backslashes && t.doubles == 0 && !t.lines then ⟨true, false⟩
  else if !t.controls && t.singles == 0 && !t.lines then ⟨false, false⟩
  else if !t.controls && !t.backslashes && t.doubles ≤ 2 then ⟨true, true⟩
  else if !t.controls && t.singles ≤ 2 then ⟨false, true⟩
  else ⟨true, t.lines⟩

/-- A character other than a quote in a text with escapes. -/
def escape (lines : Bool) (c : Char) : List Char :=
  if c = '\\' then ['\\', '\\']
  else if c = '\t' then ['\\', 't']
  else if c = '\n' then if lines then ['\n'] else ['\\', 'n']
  else if c = '\r' then ['\\', 'r']
  else if c.toNat = 8 then ['\\', 'b']
  else if c.toNat = 12 then ['\\', 'f']
  else if isControl c then '\\' :: 'u' :: (Hex.padded 4 c.toNat).map Char.toUpper
  else [c]

/-- The characters of a text with escapes, after so many quotes. On several lines two quotes may
stand side by side. -/
def escapeAfter (lines : Bool) (quotes : Nat) : List Char → List Char
  | [] => []
  | c :: rest =>
    if c = '"' then
      if lines && quotes < 2 then c :: escapeAfter lines (quotes + 1) rest
      else '\\' :: '"' :: escapeAfter lines 0 rest
    else escape lines c ++ escapeAfter lines 0 rest

/-- A text. -/
def text (s : String) : String :=
  let cs := s.toList
  let form := (Traits.of cs).form
  let quote := if form.escapes then '"' else '\''
  let quotes := List.replicate (if form.lines then 3 else 1) quote
  let opening := if form.lines && cs.contains '\n' then ['\n'] else []
  String.ofList (quotes ++ opening ++ (if form.escapes then escapeAfter form.lines 0 cs
    else cs) ++ quotes)

/-! ### Values -/

/-- Whether a key needs no quotes. -/
def isBare (key : String) : Bool :=
  key != "" && key.toList.all fun c => c.isAlphanum || c == '-' || c == '_'

/-- A key. -/
def key (k : String) : String := if isBare k then k else text k

mutual

/-- A value behind its key. -/
def value : Json → String
  | .null => "\"\""
  | .bool b => if b then "true" else "false"
  | .integer n => toString n
  | .float x => Json.number x
  | .text s => text s
  | .list elements =>
    let written := values elements
    if written.length ≤ 1 then "[" ++ "".intercalate written ++ "]"
    else "[" ++ "".intercalate (written.map fun v => "\n    " ++ v ++ ",") ++ "\n]"
  | .object members =>
    if members.isEmpty then "\x7b\x7d" else "\x7b " ++ ", ".intercalate (inlined members) ++ " \x7d"

/-- The values of a list. -/
def values : List Json → List String
  | [] => []
  | v :: rest => value v :: values rest

/-- The keys and values of a table on one line. -/
def inlined : List (String × Json) → List String
  | [] => []
  | (k, v) :: rest => (key k ++ " = " ++ value v) :: inlined rest

end

mutual

/-- Whether every integer has 64 bits with a sign. -/
def fits : Json → Bool
  | .integer n => (Text.Integer.Range.signed 64).holds n
  | .list elements => fitsElements elements
  | .object members => fitsMembers members
  | _ => true

/-- Whether the integers of all elements fit. -/
def fitsElements : List Json → Bool
  | [] => true
  | v :: rest => fits v && fitsElements rest

/-- Whether the integers of all members fit. -/
def fitsMembers : List (String × Json) → Bool
  | [] => true
  | (_, v) :: rest => fits v && fitsMembers rest

end

/-! ### Tables -/

/-- Whether a value is a table. -/
def isTable : Json → Bool
  | .object _ => true
  | _ => false

/-- Whether a value is written under headers of its own. -/
def hasHeader : Json → Bool
  | .object _ => true
  | .list elements => !elements.isEmpty && elements.all isTable
  | _ => false

/-- Whether a value is null. -/
def isNull : Json → Bool
  | .null => true
  | _ => false

/-- The lines of the plain values of a table. -/
def plainLines (members : List (String × Json)) : List String :=
  (members.filter fun m => !hasHeader m.2 && !isNull m.2).map fun m => s!"{key m.1} = {value m.2}\n"

/-- A path in a header. -/
def path (keys : List String) : String := ".".intercalate (keys.map key)

/-- The header and the plain values of a table, unless it holds tables only. -/
def ownBlock (keys : List String) (members : List (String × Json)) : List String :=
  let lines := plainLines members
  if lines.isEmpty && !members.isEmpty then []
  else [s!"[{path keys}]\n" ++ "".intercalate lines]

mutual

/-- The blocks of what a table holds under headers. -/
def nestedBlocks (keys : List String) : List (String × Json) → List String
  | [] => []
  | (k, .object members) :: rest =>
    ownBlock (keys ++ [k]) members ++ nestedBlocks (keys ++ [k]) members ++ nestedBlocks keys rest
  | (k, .list elements) :: rest =>
    (if hasHeader (.list elements) then elementBlocks (keys ++ [k]) elements else []) ++
      nestedBlocks keys rest
  | _ :: rest => nestedBlocks keys rest

/-- The blocks of a list of tables. -/
def elementBlocks (keys : List String) : List Json → List String
  | [] => []
  | .object members :: rest =>
    (s!"[[{path keys}]]\n" ++ "".intercalate (plainLines members)) ::
      (nestedBlocks keys members ++ elementBlocks keys rest)
  | _ :: rest => elementBlocks keys rest

end

/-- The text of an object as a document. -/
def document (members : List (String × Json)) : String :=
  let lines := "".intercalate (plainLines members)
  "\n".intercalate ((if lines = "" then [] else [lines]) ++ nestedBlocks [] members)

end TrackerGateway.Toml.Printer
