import TrackerGateway.Text.CategoryTable

/-!
# Character classes of the Unicode standard

`category` looks a character up in the table of runs. The classes below are read off it: decimal
digits, word characters, blanks, and the characters that quoted text has to escape. Each agrees on
ASCII with a direct test, which is tried first.
-/

namespace TrackerGateway.Text

/-- The general categories, in the order of their codes in the table. -/
inductive Category where
  | uppercaseLetter
  | lowercaseLetter
  | titlecaseLetter
  | modifierLetter
  | otherLetter
  | nonspacingMark
  | spacingMark
  | enclosingMark
  | decimalNumber
  | letterNumber
  | otherNumber
  | connectorPunctuation
  | dashPunctuation
  | openPunctuation
  | closePunctuation
  | initialPunctuation
  | finalPunctuation
  | otherPunctuation
  | mathSymbol
  | currencySymbol
  | modifierSymbol
  | otherSymbol
  | spaceSeparator
  | lineSeparator
  | paragraphSeparator
  | control
  | format
  | surrogate
  | privateUse
  | unassigned
  deriving DecidableEq, Repr

namespace Category

/-- All categories in code order. -/
def all : Array Category := #[
  .uppercaseLetter, .lowercaseLetter, .titlecaseLetter, .modifierLetter, .otherLetter,
  .nonspacingMark, .spacingMark, .enclosingMark, .decimalNumber, .letterNumber, .otherNumber,
  .connectorPunctuation, .dashPunctuation, .openPunctuation, .closePunctuation, .initialPunctuation,
  .finalPunctuation, .otherPunctuation, .mathSymbol, .currencySymbol, .modifierSymbol, .otherSymbol,
  .spaceSeparator, .lineSeparator, .paragraphSeparator, .control, .format, .surrogate, .privateUse,
  .unassigned]

/-- The two letter name of a category. -/
def abbreviation : Category → String
  | .uppercaseLetter => "Lu"
  | .lowercaseLetter => "Ll"
  | .titlecaseLetter => "Lt"
  | .modifierLetter => "Lm"
  | .otherLetter => "Lo"
  | .nonspacingMark => "Mn"
  | .spacingMark => "Mc"
  | .enclosingMark => "Me"
  | .decimalNumber => "Nd"
  | .letterNumber => "Nl"
  | .otherNumber => "No"
  | .connectorPunctuation => "Pc"
  | .dashPunctuation => "Pd"
  | .openPunctuation => "Ps"
  | .closePunctuation => "Pe"
  | .initialPunctuation => "Pi"
  | .finalPunctuation => "Pf"
  | .otherPunctuation => "Po"
  | .mathSymbol => "Sm"
  | .currencySymbol => "Sc"
  | .modifierSymbol => "Sk"
  | .otherSymbol => "So"
  | .spaceSeparator => "Zs"
  | .lineSeparator => "Zl"
  | .paragraphSeparator => "Zp"
  | .control => "Cc"
  | .format => "Cf"
  | .surrogate => "Cs"
  | .privateUse => "Co"
  | .unassigned => "Cn"

end Category

/-- The last index from `low` on whose entry is at most `key`, between `low` and `high`. -/
def lastAtMost (table : Array Nat) (key : Nat) : Nat → Nat → Nat → Nat
  | 0, low, _ => low
  | steps + 1, low, high =>
    if high ≤ low + 1 then low
    else
      let middle := (low + high) / 2
      if table.getD middle 0 ≤ key then lastAtMost table key steps middle high
      else lastAtMost table key steps low middle

/-- The general category of a character. -/
def category (c : Char) : Category :=
  let table := CategoryTable.runs
  let entry := table.getD (lastAtMost table (32 * c.toNat + 31) table.size 0 table.size) 0
  Category.all.getD (entry % 32) .unassigned

/-- Whether a number lies in one of the closed ranges. -/
def inRanges (ranges : List (Nat × Nat)) (n : Nat) : Bool :=
  ranges.any fun r => r.1 ≤ n && n ≤ r.2

/-- Whether a character is an ASCII digit. -/
def isAsciiDigit (c : Char) : Bool := '0' ≤ c && c ≤ '9'

/-- Whether a character is an ASCII letter. -/
def isAsciiLetter (c : Char) : Bool := ('a' ≤ c && c ≤ 'z') || ('A' ≤ c && c ≤ 'Z')

/-- Decimal digits of any script. -/
def isDigit (c : Char) : Bool :=
  if c.toNat < 128 then isAsciiDigit c else category c == .decimalNumber

/-- The code points of the property White_Space. -/
def blankRanges : List (Nat × Nat) :=
  [(9, 13), (32, 32), (133, 133), (160, 160), (5760, 5760), (8192, 8202), (8232, 8233),
    (8239, 8239), (8287, 8287), (12288, 12288)]

/-- Whether a character is a blank of the property White_Space. -/
def isBlank (c : Char) : Bool := inRanges blankRanges c.toNat

/-- Letters and the characters that the property Alphabetic adds to letters and marks. -/
def isAlphabetic (c : Char) : Bool :=
  match category c with
  | .uppercaseLetter | .lowercaseLetter | .titlecaseLetter | .modifierLetter | .otherLetter
  | .letterNumber => true
  | .otherSymbol =>
    inRanges [(9398, 9449), (127280, 127305), (127312, 127337), (127344, 127369)] c.toNat
  | _ => false

/-- Whether a character is a mark of any kind. -/
def isMark (c : Char) : Bool :=
  match category c with
  | .nonspacingMark | .spacingMark | .enclosingMark => true
  | _ => false

/-- Characters of words: letters, marks, decimal digits, connectors and the two joiners. -/
def isWord (c : Char) : Bool :=
  if c.toNat < 128 then isAsciiLetter c || isAsciiDigit c || c == '_'
  else isAlphabetic c || isMark c || category c == .decimalNumber ||
    category c == .connectorPunctuation || c.toNat == 8204 || c.toNat == 8205

/-- Whether a character is a control character. -/
def isControl (c : Char) : Bool := c.toNat < 32 || (127 ≤ c.toNat && c.toNat < 160)

/-- Whether a character has a visible form of its own, or is the plain space. -/
def isPrintable (c : Char) : Bool :=
  if c.toNat < 127 then 32 ≤ c.toNat
  else match category c with
    | .spaceSeparator | .lineSeparator | .paragraphSeparator | .control | .format | .surrogate
    | .privateUse | .unassigned => false
    | _ => true

/-- Code points outside the marks that extend the character before them. -/
def extendingRanges : List (Nat × Nat) := [
  (2494, 2494), (2519, 2519), (2878, 2878), (2903, 2903), (3006, 3006), (3031, 3031), (3264, 3264),
  (3266, 3266), (3271, 3272), (3274, 3275), (3285, 3286), (3390, 3390), (3415, 3415), (3535, 3535),
  (3551, 3551), (5909, 5909), (5940, 5940), (6965, 6965), (6971, 6971), (6973, 6973), (6979, 6980),
  (7082, 7082), (7154, 7155), (8204, 8204), (12334, 12335), (43347, 43347), (43456, 43456),
  (65438, 65439), (70080, 70080), (70197, 70197), (70462, 70462), (70477, 70477), (70487, 70487),
  (70584, 70584), (70594, 70594), (70597, 70597), (70599, 70601), (70607, 70607), (70832, 70832),
  (70845, 70845), (71087, 71087), (71350, 71350), (71984, 71984), (71997, 71997), (73537, 73537),
  (94192, 94193), (119141, 119142), (119149, 119154), (917536, 917631)]

/-- Whether a character extends the one before it. -/
def isExtending (c : Char) : Bool :=
  if c.toNat < 768 then false
  else match category c with
    | .nonspacingMark | .enclosingMark => true
    | _ => inRanges extendingRanges c.toNat

end TrackerGateway.Text
