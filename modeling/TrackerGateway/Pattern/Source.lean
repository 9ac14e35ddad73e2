import TrackerGateway.Pattern.Match
import TrackerGateway.Bytes.Hex

/-!
# Patterns from text

The usual notation: alternatives, groups with and without a number or with flags, counted and
uncounted repetitions, greedy or not, classes in brackets with ranges and set operations, and
escapes. `compile?` reads a whole text; none means that it is not well formed. What needs a look
ahead or behind, or a reference to a group, is not well formed.
-/

namespace TrackerGateway.Pattern.Source

/-- How letters, points and conditions are meant from here on. -/
structure Flags where
  /-- Without regard to case. -/
  caseless : Bool
  /-- Lines have starts and ends. -/
  multiLine : Bool
  /-- A point stands for a line break too. -/
  dotAll : Bool
  /-- Repetitions prefer few. -/
  swapGreed : Bool
  /-- Classes are those of the Unicode standard. -/
  unicode : Bool
  /-- Blanks and comments stand for nothing. -/
  spaced : Bool
  /-- Lines end in a carriage return and a line feed as well. -/
  anyLine : Bool
  deriving DecidableEq, Repr

/-- The flags a text starts with. -/
def Flags.initial : Flags := ⟨false, false, false, false, true, false, false⟩

/-- A place in the text, and the groups before it. -/
structure Cursor where
  rest : List Char
  groupCount : Nat
  names : List String

/-- A unit of the notation that a repetition may follow. -/
inductive Atom where
  | char (c : Char)
  | set (s : CharSet)
  | look (condition : Look)

/-- The ASCII characters. -/
def ascii : CharSet := .range (Char.ofNat 0) (Char.ofNat 127)

/-- A set as the flags mean it: perhaps without regard to case, and without the Unicode classes
of ASCII characters alone. -/
def meant (flags : Flags) (s : CharSet) : CharSet :=
  let folded := CharSet.folded flags.caseless s
  if flags.unicode then folded else .inter folded ascii

/-- Word characters under the flags. -/
def wordSet (flags : Flags) : CharSet :=
  if flags.unicode then .word
  else .unions [.range 'a' 'z', .range 'A' 'Z', .range '0' '9', .single '_']

/-- The class of a letter such as d, or of its upper case form, its complement. Without the Unicode
classes a complement would hold parts of characters. -/
def letterClass? (flags : Flags) (c : Char) : Option CharSet :=
  let plain := c.toLower
  let set? : Option CharSet := match plain with
    | 'd' => some (if flags.unicode then .digit else .range '0' '9')
    | 's' => some (if flags.unicode then .blank else .unions [.range '\t' '\x0d', .single ' '])
    | 'w' => some (wordSet flags)
    | _ => none
  if c == plain then set? else if flags.unicode then set?.map .compl else none

/-- Whether a character has a meaning of its own in the notation. -/
def isMeta (c : Char) : Bool := "\\.+*?()|[]\x7b\x7d^$#&-~".toList.contains c

/-- Whether a backslash may stand before a character that it does not change. -/
def isEscapable (c : Char) : Bool :=
  isMeta c || (c.toNat < 128 && !Text.isAsciiLetter c && !Text.isAsciiDigit c && c != '<' &&
    c != '>')

/-- Text less blanks and comments, where these stand for nothing. -/
def skip (flags : Flags) : List Char → List Char
  | cs =>
    if flags.spaced then go (cs.length + 1) cs else cs
where
  /-- Drops blanks and comments in turn. -/
  go : Nat → List Char → List Char
    | 0, cs => cs
    | _ + 1, [] => []
    | fuel + 1, c :: rest =>
      if Text.isBlank c then go fuel rest
      else if c == '#' then go fuel (rest.dropWhile (· != '\n'))
      else c :: rest

/-- The value of hexadecimal digits. -/
def hexValue? (digits : List Char) : Option Nat :=
  if digits.isEmpty then none
  else digits.foldlM (fun n c => (Hex.value? c).map (16 * n + ·)) 0

/-- The character with a code. -/
def charOf? (code : Nat) : Option Char := if code.isValidChar then some (Char.ofNat code) else none

/-- A code point after the letter that announces so many digits, or any number of them in braces. -/
def codePoint? (width : Nat) (cs : List Char) : Option (Char × List Char) :=
  match cs with
  | '\x7b' :: rest =>
    let digits := rest.takeWhile (· != '\x7d')
    match rest.drop digits.length with
    | _ :: rest => ((hexValue? digits).bind charOf?).map fun c => (c, rest)
    | [] => none
  | cs =>
    let digits := cs.take width
    if digits.length = width then ((hexValue? digits).bind charOf?).map fun c => (c, cs.drop width)
    else none

/-- A name of a property, without regard to case, blanks and hyphens. -/
def plainName (name : List Char) : String :=
  String.ofList ((name.filter fun c => c != ' ' && c != '_' && c != '-').map Char.toLower)

/-- The categories whose abbreviation starts so. -/
def categories (start : String) : CharSet :=
  .unions ((Text.Category.all.toList.filter fun k =>
    (plainName k.abbreviation.toList).startsWith start).map .category)

/-- The long names of groups of categories, and how their abbreviations start. -/
def categoryNames : List (String × String) :=
  [("letter", "l"), ("uppercaseletter", "lu"), ("lowercaseletter", "ll"), ("titlecaseletter", "lt"),
    ("modifierletter", "lm"), ("otherletter", "lo"), ("mark", "m"), ("combiningmark", "m"),
    ("nonspacingmark", "mn"), ("spacingmark", "mc"), ("enclosingmark", "me"), ("number", "n"),
    ("decimalnumber", "nd"), ("digit", "nd"), ("letternumber", "nl"), ("othernumber", "no"),
    ("punctuation", "p"), ("punct", "p"), ("connectorpunctuation", "pc"), ("dashpunctuation", "pd"),
    ("openpunctuation", "ps"), ("closepunctuation", "pe"), ("initialpunctuation", "pi"),
    ("finalpunctuation", "pf"), ("otherpunctuation", "po"), ("symbol", "s"), ("mathsymbol", "sm"),
    ("currencysymbol", "sc"), ("modifiersymbol", "sk"), ("othersymbol", "so"), ("separator", "z"),
    ("spaceseparator", "zs"), ("lineseparator", "zl"), ("paragraphseparator", "zp"), ("other", "c"),
    ("control", "cc"), ("cntrl", "cc"), ("format", "cf"), ("privateuse", "co"),
    ("unassigned", "cn"), ("surrogate", "cs")]

/-- The set of a property. -/
def property? (name : List Char) : Option CharSet :=
  let name := plainName name
  if name = "any" then some .any
  else if name = "ascii" then some ascii
  else if name = "assigned" then some (.compl (.category .unassigned))
  else if name = "alphabetic" || name = "alpha" then some .alphabetic
  else if name = "whitespace" || name = "wspace" || name = "space" then some .blank
  else
    match categoryNames.lookup name with
    | some start => some (categories start)
    | none =>
      let isStart := Text.Category.all.any fun k =>
        (plainName k.abbreviation.toList).startsWith name
      if (name.length = 1 || name.length = 2) && isStart then some (categories name) else none

/-- The class of a property, after the letter that announces it. -/
def propertyClass? (flags : Flags) (isNegated : Bool) (cs : List Char) :
    Option (CharSet × List Char) :=
  if !flags.unicode then none
  else
    let build (name rest : List Char) : Option (CharSet × List Char) :=
      let (inner, name) := match name with
        | '^' :: name => (true, name)
        | name => (false, name)
      let name := (name.dropWhile fun c => c != '=' && c != ':').drop 1 |> fun value =>
        if value.isEmpty then name else value
      (property? name).map fun s => (CharSet.negated (isNegated != inner) (meant flags s), rest)
    match cs with
    | '\x7b' :: rest =>
      let name := rest.takeWhile (· != '\x7d')
      match rest.drop name.length with
      | _ :: rest => build name rest
      | [] => none
    | c :: rest => build [c] rest
    | [] => none

/-- The special conditions on word ends that braces after the letter b name. -/
def wordCondition? (flags : Flags) (cs : List Char) : Option (Look × List Char) :=
  let inner := cs.takeWhile (· != '\x7d')
  let rest := cs.drop (inner.length + 1)
  match String.ofList inner with
  | "start" => some (.wordStart (wordSet flags), rest)
  | "end" => some (.wordEnd (wordSet flags), rest)
  | "start-half" => some (.wordStartHalf (wordSet flags), rest)
  | "end-half" => some (.wordEndHalf (wordSet flags), rest)
  | _ => none

/-- A character that stands for itself; without the Unicode classes only an ASCII character does. -/
def literal? (flags : Flags) (c : Char) (rest : List Char) : Option (Atom × List Char) :=
  if flags.unicode || c.toNat < 128 then some (.char c, rest) else none

/-- What a backslash and the text after it stand for. -/
def escape? (flags : Flags) : List Char → Option (Atom × List Char)
  | [] => none
  | c :: rest =>
    if c == 'x' then (codePoint? 2 rest).bind fun (d, rest) => literal? flags d rest
    else if c == 'u' then (codePoint? 4 rest).bind fun (d, rest) => literal? flags d rest
    else if c == 'U' then (codePoint? 8 rest).bind fun (d, rest) => literal? flags d rest
    else if c == 'p' || c == 'P' then
      (propertyClass? flags (c == 'P') rest).map fun (s, rest) => (.set s, rest)
    else if "dswDSW".toList.contains c then (letterClass? flags c).map fun s => (.set s, rest)
    else if isEscapable c then some (.char c, rest)
    else match c with
      | 'a' => some (.char '\x07', rest)
      | 'f' => some (.char '\x0c', rest)
      | 't' => some (.char '\t', rest)
      | 'n' => some (.char '\n', rest)
      | 'r' => some (.char '\r', rest)
      | 'v' => some (.char '\x0b', rest)
      | 'A' => some (.look .textStart, rest)
      | 'z' => some (.look .textEnd, rest)
      | 'b' =>
        match rest with
        | '\x7b' :: after =>
          match wordCondition? flags after with
          | some (condition, rest) => some (.look condition, rest)
          | none => if (after.head?.map Text.isAsciiLetter).getD false then none
            else some (.look (.boundary (wordSet flags)), rest)
        | _ => some (.look (.boundary (wordSet flags)), rest)
      | 'B' => if flags.unicode then some (.look (.noBoundary (wordSet flags)), rest) else none
      | '<' => some (.look (.wordStart (wordSet flags)), rest)
      | '>' => some (.look (.wordEnd (wordSet flags)), rest)
      | _ => none

/-! ### Classes in brackets -/

/-- The sets that have names within brackets. -/
def asciiClass? (name : String) : Option CharSet :=
  let letters : List CharSet := [.range 'a' 'z', .range 'A' 'Z']
  match name with
  | "alnum" => some (.unions (letters ++ [.range '0' '9']))
  | "alpha" => some (.unions letters)
  | "ascii" => some ascii
  | "blank" => some (.unions [.single ' ', .single '\t'])
  | "cntrl" => some (.unions [.range (Char.ofNat 0) (Char.ofNat 31), .single (Char.ofNat 127)])
  | "digit" => some (.range '0' '9')
  | "graph" => some (.range '!' '~')
  | "lower" => some (.range 'a' 'z')
  | "print" => some (.range ' ' '~')
  | "punct" => some (.unions [.range '!' '/', .range ':' '@', .range '[' '\x60', .range '\x7b' '~'])
  | "space" => some (.unions [.range '\t' '\x0d', .single ' '])
  | "upper" => some (.range 'A' 'Z')
  | "word" => some (.unions (letters ++ [.range '0' '9', .single '_']))
  | "xdigit" => some (.unions [.range '0' '9', .range 'A' 'F', .range 'a' 'f'])
  | _ => none

/-- A named set at the start of a text, with its brackets and colons. -/
def namedSet? : List Char → Option (CharSet × List Char)
  | '[' :: ':' :: rest =>
    let (isNegated, rest) := match rest with
      | '^' :: rest => (true, rest)
      | rest => (false, rest)
    let name := rest.takeWhile (· != ':')
    match rest.drop name.length with
    | ':' :: ']' :: rest =>
      (asciiClass? (String.ofList name)).map fun s => (.negated isNegated s, rest)
    | _ => none
  | _ => none

/-- One item of a class: a character or the set of an escape. -/
def classItem? (flags : Flags) : List Char → Option (Atom × List Char)
  | [] => none
  | '\\' :: rest => escape? flags rest
  | c :: rest => literal? flags c rest

/-- A range of a class, or one item. -/
def classRange? (flags : Flags) (cs : List Char) : Option (CharSet × List Char) := do
  let (first, rest) ← classItem? flags cs
  let rest := skip flags rest
  let single : Option (CharSet × List Char) := match first with
    | .char c => some (.single c, rest)
    | .set s => some (s, rest)
    | .look _ => none
  match rest with
  | '-' :: after =>
    let after := skip flags after
    match after with
    | ']' :: _ | '-' :: _ => single
    | _ =>
      let (last, rest) ← classItem? flags after
      match first, last with
      | .char a, .char b => if a ≤ b then some (.range a b, rest) else none
      | _, _ => none
  | [] => none
  | _ => single

/-- A set operation. -/
inductive Operation where
  | inter
  | diff
  | symmDiff

/-- Applies a set operation to the operands so far and the next; neither regards case if the flags
say so. -/
def apply (flags : Flags) (before : Option (CharSet × Operation)) (next : CharSet) : CharSet :=
  match before with
  | none => next
  | some (left, operation) =>
    let left := meant flags left
    let right := meant flags next
    match operation with
    | .inter => .inter left right
    | .diff => .diff left right
    | .symmDiff => .symmDiff left right

/-- Takes the hyphens and a closing bracket that a class may start with. -/
def classStart (flags : Flags) (cs : List Char) : List CharSet × List Char :=
  let hyphens := cs.takeWhile (· == '-')
  let rest := skip flags (cs.drop hyphens.length)
  match hyphens, rest with
  | [], ']' :: rest => ([.single ']'], skip flags rest)
  | _, rest => (hyphens.map fun c => .single c, rest)

/-- The rest of a class after its opening bracket: `before` is what stands left of the last set
operation, `items` what came since. -/
def classRest? (flags : Flags) :
    Nat → Bool → Option (CharSet × Operation) → List CharSet → List Char →
    Option (CharSet × List Char)
  | 0, _, _, _, _ => none
  | fuel + 1, isNegated, before, items, cs =>
    let soFar (_ : Unit) := apply flags before (.unions items.reverse)
    let operate (operation : Operation) (rest : List Char) :=
      classRest? flags fuel isNegated (some (soFar (), operation)) [] rest
    match skip flags cs with
    | [] => none
    | ']' :: rest => some (.negated isNegated (meant flags (soFar ())), rest)
    | '&' :: '&' :: rest => operate .inter rest
    | '-' :: '-' :: rest => operate .diff rest
    | '~' :: '~' :: rest => operate .symmDiff rest
    | '[' :: rest =>
      match namedSet? ('[' :: rest) with
      | some (s, rest) => classRest? flags fuel isNegated before (s :: items) rest
      | none =>
        let (inner, rest) := match rest with
          | '^' :: rest => (true, skip flags rest)
          | rest => (false, skip flags rest)
        let (first, rest) := classStart flags rest
        match classRest? flags fuel inner none first.reverse rest with
        | some (s, rest) => classRest? flags fuel isNegated before (s :: items) rest
        | none => none
    | cs =>
      match classRange? flags cs with
      | some (s, rest) => classRest? flags fuel isNegated before (s :: items) rest
      | none => none

/-- A class after its opening bracket. -/
def class? (flags : Flags) (cs : List Char) : Option (CharSet × List Char) :=
  let (isNegated, rest) := match cs with
    | '^' :: rest => (true, skip flags rest)
    | rest => (false, skip flags rest)
  if isNegated && !flags.unicode then none
  else
    let (first, rest) := classStart flags rest
    classRest? flags (rest.length + 1) isNegated none first.reverse rest

/-! ### Repetitions, flags and groups -/

/-- A count of a repetition. -/
def count? (flags : Flags) (cs : List Char) : Option (Nat × List Char) :=
  let cs := skip flags cs
  let cs := cs.dropWhile Text.isBlank
  let digits := cs.takeWhile Text.isAsciiDigit
  let value := digits.foldl (fun n c => 10 * n + (c.toNat - 48)) 0
  if digits.isEmpty || Nat.pow 2 32 ≤ value then none
  else some (value, (cs.drop digits.length).dropWhile Text.isBlank)

/-- The least and the greatest count of a repetition after its opening brace. -/
def counts? (flags : Flags) (cs : List Char) : Option ((Nat × Option Nat) × List Char) := do
  let (least, rest) ← count? flags cs
  match rest with
  | '\x7d' :: rest => some ((least, some least), rest)
  | ',' :: rest =>
    match skip flags rest with
    | '\x7d' :: rest => some ((least, none), rest)
    | rest =>
      let (most, rest) ← count? flags rest
      match rest with
      | '\x7d' :: rest => if least ≤ most then some ((least, some most), rest) else none
      | _ => none
  | _ => none

/-- Whether a question mark makes a repetition lazy, and the text after it. -/
def laziness : List Char → Bool × List Char
  | '?' :: rest => (true, rest)
  | rest => (false, rest)

/-- Sets the flag of a letter. -/
def Flags.set? (flags : Flags) (letter : Char) (value : Bool) : Option Flags :=
  match letter with
  | 'i' => some { flags with caseless := value }
  | 'm' => some { flags with multiLine := value }
  | 's' => some { flags with dotAll := value }
  | 'U' => some { flags with swapGreed := value }
  | 'u' => some { flags with unicode := value }
  | 'x' => some { flags with spaced := value }
  | 'R' => some { flags with anyLine := value }
  | _ => none

/-- Sets the flags of letters, those after a hyphen to false. A letter may come once only. -/
def flagsOf? : Flags → Bool → List Char → List Char → Option Flags
  | flags, _, _, [] => some flags
  | flags, value, seen, c :: rest =>
    if seen.contains c then none
    else if c == '-' then if rest.isEmpty then none else flagsOf? flags false (c :: seen) rest
    else match flags.set? c value with
      | some flags => flagsOf? flags value (c :: seen) rest
      | none => none

/-- Whether a character may be part of a group's name. -/
def isNameChar (isFirst : Bool) (c : Char) : Bool :=
  c == '_' || (!isFirst && (c == '.' || c == '[' || c == ']')) ||
    Text.isAlphabetic c || Text.isMark c && !isFirst ||
    (!isFirst && (Text.isDigit c || Text.category c == .letterNumber ||
      Text.category c == .otherNumber))

/-- What opens a group: its flags, whether it has a number, or flags alone. -/
inductive Opening where
  | group (flags : Flags) (cursor : Cursor) (isNumbered : Bool)
  | flags (flags : Flags) (cursor : Cursor)

/-- A group with a number, perhaps with a name. -/
def numbered (flags : Flags) (cursor : Cursor) (rest : List Char) (names : List String) : Opening :=
  .group flags { cursor with rest, groupCount := cursor.groupCount + 1, names } true

/-- A group with a name, after the bracket before the name. -/
def named? (flags : Flags) (cursor : Cursor) (cs : List Char) : Option Opening :=
  let name := cs.takeWhile (· != '>')
  match name, cs.drop name.length with
  | first :: others, _ :: rest =>
    let text := String.ofList name
    if isNameChar true first && others.all (isNameChar false) && !cursor.names.contains text then
      some (numbered flags cursor rest (text :: cursor.names))
    else none
  | _, _ => none

/-- Reads what follows an opening parenthesis. -/
def opening? (flags : Flags) (cursor : Cursor) : Option Opening :=
  match skip flags cursor.rest with
  | '?' :: 'P' :: '<' :: rest => named? flags cursor rest
  | '?' :: '<' :: '=' :: _ | '?' :: '<' :: '!' :: _ => none
  | '?' :: '<' :: rest => named? flags cursor rest
  | '?' :: rest =>
    let letters := rest.takeWhile fun c => c != ':' && c != ')'
    match rest.drop letters.length, flagsOf? flags true [] letters with
    | ':' :: rest, some inner => some (.group inner { cursor with rest } false)
    | ')' :: rest, some inner =>
      if letters.isEmpty then none else some (.flags inner { cursor with rest })
    | _, _ => none
  | rest => some (numbered flags cursor rest cursor.names)

/-- The pattern of a unit. -/
def Atom.pattern (flags : Flags) : Atom → Pattern
  | .char c => .char (meant flags (.single c))
  | .set s => .char s
  | .look condition => .look condition

/-- Any character, or any that ends no line. -/
def dot? (flags : Flags) : Option CharSet :=
  if !flags.unicode then none
  else if flags.dotAll then some .any
  else if flags.anyLine then some (.compl (.union (.single '\n') (.single '\r')))
  else some (.compl (.single '\n'))

/-- The condition for the start of a text or line. -/
def startCondition (flags : Flags) : Look :=
  if !flags.multiLine then .textStart else if flags.anyLine then .anyLineStart else .lineStart

/-- The condition for the end of a text or line. -/
def endCondition (flags : Flags) : Look :=
  if !flags.multiLine then .textEnd else if flags.anyLine then .anyLineEnd else .lineEnd

/-- The alternatives read so far, and the parts of the one at hand, all last first. A part that only
sets flags is none: no repetition may follow it. -/
structure Reading where
  alternatives : List Pattern
  parts : List (Option Pattern)

namespace Reading

/-- Nothing read. -/
def start : Reading := ⟨[], []⟩

/-- The parts at hand, in order. -/
def current (r : Reading) : Pattern := sequence (r.parts.reverse.filterMap id)

/-- Ends the alternative at hand. -/
def next (r : Reading) : Reading := ⟨r.current :: r.alternatives, []⟩

/-- All that was read. -/
def pattern (r : Reading) : Pattern := choice (r.current :: r.alternatives).reverse

/-- Adds a part. -/
def add (r : Reading) (part : Option Pattern) : Reading := { r with parts := part :: r.parts }

/-- Repeats the last part. -/
def repeat? (r : Reading) (build : Pattern → Pattern) : Option Reading :=
  match r.parts with
  | some part :: before => some { r with parts := some (build part) :: before }
  | _ => none

end Reading

/-- Reads alternatives up to the parenthesis that closes them, or, at depth 0, to the end. -/
def alternatives? : Nat → Nat → Flags → Reading → Cursor → Option (Pattern × Cursor)
  | 0, _, _, _, _ => none
  | fuel + 1, depth, flags, reading, cursor =>
    let goOn (reading : Reading) (rest : List Char) :=
      alternatives? fuel depth flags reading { cursor with rest }
    let repetition (least : Nat) (most : Option Nat) (rest : List Char) :=
      let (isLazy, rest) := laziness rest
      match reading.repeat? fun p => repeated p least most (isLazy == flags.swapGreed) with
      | some reading => goOn reading rest
      | none => none
    match skip flags cursor.rest with
    | [] => if depth = 0 then some (reading.pattern, { cursor with rest := [] }) else none
    | ')' :: rest => if depth = 0 then none else some (reading.pattern, { cursor with rest })
    | '|' :: rest => goOn reading.next rest
    | '?' :: rest => repetition 0 (some 1) rest
    | '*' :: rest => repetition 0 none rest
    | '+' :: rest => repetition 1 none rest
    | '\x7b' :: rest =>
      match counts? flags rest with
      | some ((least, most), rest) => repetition least most (skip flags rest)
      | none => none
    | '[' :: rest =>
      match class? flags rest with
      | some (s, rest) => goOn (reading.add (some (.char s))) rest
      | none => none
    | '.' :: rest =>
      match dot? flags with
      | some s => goOn (reading.add (some (.char s))) rest
      | none => none
    | '^' :: rest => goOn (reading.add (some (.look (startCondition flags)))) rest
    | '$' :: rest => goOn (reading.add (some (.look (endCondition flags)))) rest
    | '\\' :: rest =>
      match escape? flags rest with
      | some (atom, rest) => goOn (reading.add (some (atom.pattern flags))) rest
      | none => none
    | '(' :: rest =>
      match opening? flags { cursor with rest } with
      | none => none
      | some (.flags inner cursor) => alternatives? fuel depth inner (reading.add none) cursor
      | some (.group inner opened isNumbered) =>
        match alternatives? fuel (depth + 1) inner .start opened with
        | none => none
        | some (part, closed) =>
          let part := if isNumbered then group (opened.groupCount - 1) part else part
          alternatives? fuel depth flags (reading.add (some part)) closed
    | c :: rest =>
      match literal? flags c rest with
      | some (atom, rest) => goOn (reading.add (some (atom.pattern flags))) rest
      | none => none

/-- Reads a pattern. -/
def compile? (source : String) : Option Compiled :=
  let cs := source.toList
  (alternatives? (cs.length + 1) 0 .initial .start ⟨cs, 0, []⟩).map fun (pattern, _) =>
    ⟨pattern, pattern.groupCount⟩

end TrackerGateway.Pattern.Source
