import TrackerGateway.Bytes.Hex
import TrackerGateway.Text.Category

/-!
# The texts and blanks of TOML documents

A scanner takes what it reads off the front of a text, or refuses. Texts come in four forms: in
single or double quotes, which stand once or three times; only double quotes know escapes, and
only triple quotes may go over line ends.
-/

namespace TrackerGateway.Toml

/-- Reads something off the front of a text. -/
abbrev Scan (α : Type) := StateT (List Char) Option α

namespace Scan

/-- Refuses. -/
def refuse {α : Type} : Scan α := fun _ => none

/-- What is left. -/
def rest : Scan (List Char) := fun cs => some (cs, cs)

/-- Goes on with other text. -/
def goOn (cs : List Char) : Scan Unit := fun _ => some ((), cs)

/-- The next character, which stays. -/
def peek : Scan (Option Char) := fun cs => some (cs.head?, cs)

/-- Takes this character. -/
def char (c : Char) : Scan Unit
  | d :: cs => if d = c then some ((), cs) else none
  | [] => none

/-- Takes this character if it is the next one, and says whether it was. -/
def char? (c : Char) : Scan Bool
  | d :: cs => if d = c then some (true, cs) else some (false, d :: cs)
  | [] => some (false, [])

/-- Takes characters as long as they pass. -/
def takeWhile (p : Char → Bool) : Scan (List Char) :=
  fun cs => some (cs.takeWhile p, cs.dropWhile p)

/-! ### Blanks -/

/-- A blank within a line. -/
def isBlank (c : Char) : Bool := c == ' ' || c == '\t'

/-- A character that may stand in comments and texts. -/
def isPlain (c : Char) : Bool := c == '\t' || (32 ≤ c.toNat && c.toNat ≠ 127)

/-- Passes over blanks. -/
def blanks : Scan Unit := do
  let _ ← takeWhile isBlank
  pure ()

/-- Passes over a line end, and says whether there was one. -/
def lineEnd? : Scan Bool
  | '\n' :: cs => some (true, cs)
  | '\r' :: '\n' :: cs => some (true, cs)
  | cs => some (false, cs)

/-- Passes over a comment, if there is one. -/
def comment : Scan Unit := do
  if ← char? '#' then
    let _ ← takeWhile isPlain

/-- Passes over the end of an expression: blanks, a comment, and the end of the line or the text. -/
def endOfLine : Scan Unit := do
  blanks
  comment
  unless ← lineEnd? do
    if (← peek).isSome then refuse

/-- Passes over blanks, comments and line ends. -/
def gap : Nat → Scan Unit
  | 0 => pure ()
  | fuel + 1 => do
    blanks
    comment
    if ← lineEnd? then gap fuel

/-- Passes over blanks, comments and line ends. -/
def gaps : Scan Unit := do gap ((← rest).length + 1)

/-! ### Texts -/

/-- The character of so many hexadecimal digits. -/
def codePoint (count : Nat) : Scan Char := do
  let cs ← rest
  let digits := cs.take count
  match digits.mapM Hex.value? with
  | none => refuse
  | some values =>
    let n := values.foldl (fun n d => 16 * n + d) 0
    if digits.length = count ∧ n.isValidChar then do
      goOn (cs.drop count)
      pure (Char.ofNat n)
    else refuse

/-- The character of an escape, after its backslash. -/
def escaped : Scan Char := fun
  | 'b' :: cs => some ('\x08', cs)
  | 't' :: cs => some ('\t', cs)
  | 'n' :: cs => some ('\n', cs)
  | 'f' :: cs => some ('\x0c', cs)
  | 'r' :: cs => some ('\r', cs)
  | '"' :: cs => some ('"', cs)
  | '\\' :: cs => some ('\\', cs)
  | 'u' :: cs => codePoint 4 cs
  | 'U' :: cs => codePoint 8 cs
  | _ => none

/-- A text in double quotes after the opening one; `seen` is its first part, in reverse order. -/
def quotedOnto : Nat → List Char → Scan (List Char)
  | 0, _ => refuse
  | fuel + 1, seen => do
    match ← rest with
    | [] => refuse
    | c :: cs =>
      goOn cs
      if c = '"' then pure seen.reverse
      else if c = '\\' then do quotedOnto fuel ((← escaped) :: seen)
      else if isPlain c then quotedOnto fuel (c :: seen)
      else refuse

/-- A text in single quotes after the opening one. -/
def literal : Scan (List Char) := do
  let text ← takeWhile fun c => isPlain c && c != '\''
  char '\''
  pure text

/-- The text after a backslash, blanks and a line end, if that is what stands there. -/
def continued? (cs : List Char) : Option (List Char) :=
  match cs.dropWhile isBlank with
  | '\n' :: cs => some (cs.dropWhile isGap)
  | '\r' :: '\n' :: cs => some (cs.dropWhile isGap)
  | _ => none
where
  /-- A blank or a part of a line end. -/
  isGap (c : Char) : Bool := isBlank c || c == '\n' || c == '\r'

/-- Passes over quotes inside or at the end of a text in triple quotes: the text with those that
belong to it, and whether it ends. -/
def quoteRun (quote : Char) (seen : List Char) : Scan (List Char × Bool) := do
  let cs ← rest
  let count := (cs.takeWhile (· == quote)).length
  if count < 3 then do
    goOn (cs.drop count)
    pure (List.replicate count quote ++ seen, false)
  else do
    goOn (cs.drop (min count 5))
    pure (List.replicate (min count 5 - 3) quote ++ seen, true)

/-- A text in triple quotes after the opening ones. -/
def linesOnto (quote : Char) : Nat → List Char → Scan (List Char)
  | 0, _ => refuse
  | fuel + 1, seen => do
    if ← lineEnd? then linesOnto quote fuel ('\n' :: seen)
    else
      match ← rest with
      | [] => refuse
      | c :: cs =>
        if c = quote then do
          let (seen, ends) ← quoteRun quote seen
          if ends then pure seen.reverse else linesOnto quote fuel seen
        else if c = '\\' ∧ quote = '"' then
          match continued? cs with
          | some cs => do
            goOn cs
            linesOnto quote fuel seen
          | none => do
            goOn cs
            linesOnto quote fuel ((← escaped) :: seen)
        else if isPlain c then do
          goOn cs
          linesOnto quote fuel (c :: seen)
        else refuse

/-- A text on one line. -/
def lineText (quote : Char) : Scan (List Char) := do
  char quote
  if quote = '"' then quotedOnto ((← rest).length + 1) [] else literal

/-- A text in any of the four forms. -/
def text (quote : Char) : Scan String := do
  let cs ← rest
  if (cs.take 3).all (· == quote) && 3 ≤ cs.length then do
    goOn (cs.drop 3)
    let _ ← lineEnd?
    String.ofList <$> linesOnto quote (cs.length + 1) []
  else String.ofList <$> lineText quote

/-! ### Keys -/

/-- A character of a key without quotes. -/
def isBare (c : Char) : Bool := Text.isAsciiLetter c || Text.isAsciiDigit c || c == '-' || c == '_'

/-- One part of a key, with the blanks around it. -/
def keyPart : Scan String := do
  blanks
  let part ← match ← peek with
    | some '"' => lineText '"'
    | some '\'' => lineText '\''
    | _ => do
      let part ← takeWhile isBare
      if part.isEmpty then refuse else pure part
  blanks
  pure (String.ofList part)

/-- The parts of a key after the first one. -/
def keyParts : Nat → Scan (List String)
  | 0 => refuse
  | fuel + 1 => do
    let part ← keyPart
    if ← char? '.' then
      let more ← keyParts fuel
      pure (part :: more)
    else pure [part]

/-- How deep lists, tables and keys may go. -/
def depthLimit : Nat := 80

/-- A key. -/
def key : Scan (List String) := keyParts (depthLimit - 1)

end Scan
end TrackerGateway.Toml
