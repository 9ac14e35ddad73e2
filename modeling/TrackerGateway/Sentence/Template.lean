import TrackerGateway.Pattern.Source

/-!
# Templates for the sentences of text protocols

A template is made of fragments: pattern text as it stands, literal text, or numeric text, in
which d stands for a decimal digit, x for a hexadecimal digit and a point for itself. `compile?`
makes a pattern that matches whole sentences only, and in which a point matches line breaks too.
-/

namespace TrackerGateway.Sentence

/-- A template under construction. -/
structure Template where
  fragments : List String
  deriving DecidableEq, Repr

namespace Template

/-- Literal text as pattern text. -/
def escaped (text : String) : String :=
  String.ofList (text.toList.flatMap fun c => if Pattern.Source.isMeta c then ['\\', c] else [c])

/-- A run of one placeholder: its class, and how often if more than once. -/
def run (set : String) (count : Nat) : List Char :=
  set.toList ++ if 1 < count then '\x7b' :: Nat.toDigits 10 count ++ ['\x7d'] else []

/-- The class of a placeholder. -/
def placeholder? (c : Char) : Option String :=
  if c = 'd' then some "\\d" else if c = 'x' then some "[0-9a-fA-F]" else none

/-- Numeric text as pattern text, after `count` of one placeholder. -/
def expandAfter (last : Char) (count : Nat) : List Char → List Char
  | [] => flush
  | c :: rest =>
    if c = last ∧ count ≠ 0 then expandAfter last (count + 1) rest
    else flush ++
      if (placeholder? c).isSome then expandAfter c 1 rest
      else if c = '.' then '\\' :: '.' :: expandAfter c 0 rest
      else c :: expandAfter c 0 rest
where
  /-- The run so far. -/
  flush : List Char :=
    if count = 0 then []
    else match placeholder? last with
      | some set => run set count
      | none => []

/-- Numeric text as pattern text. -/
def expand (text : String) : String := String.ofList (expandAfter ' ' 0 text.toList)

/-- A template without fragments. -/
def empty : Template := ⟨[]⟩

/-- Adds pattern text. -/
def expression (t : Template) (text : String) : Template := ⟨t.fragments ++ [text]⟩

/-- Adds literal text. -/
def text (t : Template) (literal : String) : Template := t.expression (escaped literal)

/-- Adds numeric text. -/
def number (t : Template) (numeric : String) : Template := t.expression (expand numeric)

/-- Makes the last fragments optional, as one. -/
def optionalLast (t : Template) (count : Nat) : Template :=
  let kept := t.fragments.length - count
  ⟨t.fragments.take kept ++ ["(?:" ++ "".intercalate (t.fragments.drop kept) ++ ")?"]⟩

/-- Makes the last fragment optional. -/
def optional (t : Template) : Template := t.optionalLast 1

/-- Opens a group without a number. -/
def groupBegin (t : Template) : Template := t.expression "(?:"

/-- Separates the alternatives of a group. -/
def or (t : Template) : Template := t.expression "|"

/-- Closes a group. -/
def groupEnd (t : Template) : Template := t.expression ")"

/-- Closes a group and makes it optional. -/
def groupEndOptional (t : Template) : Template := t.expression ")?"

/-- Adds whatever comes up to the end. -/
def any (t : Template) : Template := t.expression ".*"

/-- The pattern text of all fragments. -/
def source (t : Template) : String := "".intercalate t.fragments

/-- The pattern for whole sentences, if the fragments make one. -/
def compile? (t : Template) : Option Pattern.Compiled :=
  Pattern.Source.compile? ("(?s)\\A(?:" ++ t.source ++ ")\\z")

end Template
end TrackerGateway.Sentence
