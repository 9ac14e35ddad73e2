import TrackerGateway.Text.Category
import TrackerGateway.Text.CaseFold

/-!
# Sets of characters, as expressions

`CharSet.has` says whether a character belongs to a set. The named sets are those of the Unicode
standard.
-/

namespace TrackerGateway

/-- A set of characters. -/
inductive CharSet where
  /-- No character. -/
  | none
  /-- The characters between two, both included. -/
  | range (first last : Char)
  /-- Decimal digits. -/
  | digit
  /-- Word characters. -/
  | word
  /-- Blanks. -/
  | blank
  /-- Letters and what counts as letters. -/
  | alphabetic
  /-- The characters of a general category. -/
  | category (category : Text.Category)
  | union (a b : CharSet)
  | inter (a b : CharSet)
  | compl (a : CharSet)
  /-- With each character also those that differ from it in case only. -/
  | caseless (a : CharSet)
  deriving DecidableEq, Repr

namespace CharSet

/-- Whether a character belongs to a set. -/
def has : CharSet → Char → Bool
  | .none, _ => false
  | .range first last, c => first ≤ c && c ≤ last
  | .digit, c => Text.isDigit c
  | .word, c => Text.isWord c
  | .blank, c => Text.isBlank c
  | .alphabetic, c => Text.isAlphabetic c || Text.isMark c
  | .category k, c => Text.category c == k
  | .union a b, c => a.has c || b.has c
  | .inter a b, c => a.has c && b.has c
  | .compl a, c => !a.has c
  | .caseless a, c => a.has c || (Text.CaseFold.variants c).any a.has

/-- One character. -/
def single (c : Char) : CharSet := .range c c

/-- Every character. -/
def any : CharSet := .compl .none

/-- The characters of one set that are not in another. -/
def diff (a b : CharSet) : CharSet := .inter a (.compl b)

/-- The characters of one of two sets but not of both. -/
def symmDiff (a b : CharSet) : CharSet := .union (diff a b) (diff b a)

/-- The union of a list of sets. -/
def unions : List CharSet → CharSet
  | [] => .none
  | [a] => a
  | a :: rest => .union a (unions rest)

/-- A set or its complement. -/
def negated (isNegated : Bool) (a : CharSet) : CharSet := if isNegated then .compl a else a

/-- A set with or without regard to case. -/
def folded (isCaseless : Bool) (a : CharSet) : CharSet := if isCaseless then .caseless a else a

theorem has_union (a b : CharSet) (c : Char) : (a.union b).has c = (a.has c || b.has c) := rfl

theorem has_any (c : Char) : any.has c = true := rfl

end CharSet
end TrackerGateway
