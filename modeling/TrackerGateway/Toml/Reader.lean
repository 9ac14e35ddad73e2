import TrackerGateway.Toml.Number
import TrackerGateway.Toml.Scan
import TrackerGateway.Toml.Section

/-!
# Reading TOML documents

A document is read as the JSON object of the same shape. A date or a time becomes an object, which
no setting can be.
-/

namespace TrackerGateway.Toml

namespace Scan

/-- Whether a character may stand in a number, a date or a keyword. -/
def isWordChar (c : Char) : Bool :=
  Text.isAsciiLetter c || Text.isAsciiDigit c || c == '+' || c == '-' || c == '_' ||
    c == '.' || c == ':'

/-- A number, a date or a time. After a date a time may follow a blank. -/
def number : Scan Json := do
  let word ← takeWhile isWordChar
  let after ← rest
  match after with
  | ' ' :: following =>
    if Number.date? word == some [] && Number.startsTime following then do
      goOn following
      let time ← takeWhile isWordChar
      match Number.value? (word ++ ' ' :: time) with
      | some value => pure value
      | none => refuse
    else
      match Number.value? word with
      | some value => pure value
      | none => refuse
  | _ =>
    match Number.value? word with
    | some value => pure value
    | none => refuse

/-- A truth value or a special number. -/
def keyword : Scan Json := do
  let word ← takeWhile isWordChar
  match String.ofList word with
  | "true" => pure (.bool true)
  | "false" => pure (.bool false)
  | _ =>
    match Number.special? word with
    | some x => pure (.float x)
    | none => refuse

/-- The elements of a list after its opening bracket or a comma. -/
def elements (value : Scan Json) : Nat → Scan (List Json)
  | 0 => refuse
  | fuel + 1 => do
    gaps
    if ← char? ']' then pure []
    else
      let element ← value
      gaps
      if ← char? ',' then
        let more ← elements value fuel
        pure (element :: more)
      else
        char ']'
        pure [element]

/-- The parts of a key but the last, and the last. -/
def splitKey : List String → List String × String
  | [] => ([], "")
  | [key] => ([], key)
  | part :: rest =>
    let (path, key) := splitKey rest
    (part :: path, key)

/-- A key and its value. -/
def keyValue (value : Scan Json) : Scan (List String × String × Json) := do
  let (path, last) ← splitKey <$> key
  char '='
  blanks
  let v ← value
  pure (path, last, v)

/-- Adds what was read to a table. -/
def addTo (s : Section) (path : List String) (last : String) (v : Json) : Scan Section :=
  match s.insert path last v with
  | some s => pure s
  | none => refuse

/-- The rest of a table on one line, with one more key at least. -/
def members (value : Scan Json) : Nat → Section → Scan Section
  | 0, _ => refuse
  | fuel + 1, s => do
    let (path, last, v) ← keyValue value
    let s ← addTo s path last v
    blanks
    if ← char? ',' then members value fuel s
    else
      char '\x7d'
      pure s

/-- A list or a table on one line, of values that are read so. -/
def nested (value : Scan Json) : Scan Json := do
  if ← char? '[' then Json.list <$> elements value ((← rest).length + 1)
  else
    char '\x7b'
    blanks
    if ← char? '\x7d' then pure (.object [])
    else Section.toJson <$> members value ((← rest).length + 1) .fresh

/-- A value, with a way to read those inside it if there may be any. -/
def valueOver (inner : Option (Scan Json)) : Scan Json := do
  match ← peek with
  | some '"' => Json.text <$> text '"'
  | some '\'' => Json.text <$> text '\''
  | some c =>
    if c = '[' ∨ c = '\x7b' then
      match inner with
      | some inner => nested inner
      | none => refuse
    else if Text.isAsciiDigit c || c == '+' || c == '-' then number
    else if Text.isAsciiLetter c then keyword
    else refuse
  | none => refuse

/-- A value with values in it no deeper than so many levels. -/
def valueWithin : Nat → Scan Json
  | 0 => valueOver none
  | depth + 1 => valueOver (some (valueWithin depth))

/-- A value. -/
def value : Scan Json := valueWithin (depthLimit - 1)

/-- What was read of a document: its tables, and the table that keys go into. -/
structure Progress where
  root : Section
  current : List String

/-- A header after its first bracket. -/
def header (p : Progress) : Scan Progress := do
  let isList ← char? '['
  let (path, last) ← splitKey <$> key
  char ']'
  if isList then char ']'
  endOfLine
  match if isList then p.root.openNext? path last else p.root.open? path last with
  | some root => pure ⟨root, path ++ [last]⟩
  | none => refuse

/-- A key and its value on a line of their own. -/
def entry (p : Progress) : Scan Progress := do
  let (path, last, v) ← keyValue value
  endOfLine
  match p.root.descend false (Section.insert path last v) p.current with
  | some root => pure { p with root }
  | none => refuse

/-- The rest of a document. -/
def expressions : Nat → Progress → Scan Progress
  | 0, _ => refuse
  | fuel + 1, p => do
    blanks
    match ← peek with
    | none => pure p
    | some '[' =>
      char '['
      expressions fuel (← header p)
    | some '#' | some '\n' | some '\r' =>
      comment
      if ← lineEnd? then expressions fuel p
      else if (← peek).isSome then refuse
      else pure p
    | some _ => expressions fuel (← entry p)

end Scan

/-- Reads a document; a mark of byte order may come first. -/
def parse? (document : String) : Option Json :=
  let cs := match document.toList with
    | '\ufeff' :: cs => cs
    | cs => cs
  match Scan.expressions (cs.length + 2) ⟨.fresh, []⟩ cs with
  | some (p, []) => some p.root.toJson
  | _ => none

end TrackerGateway.Toml
