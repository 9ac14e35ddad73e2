import TrackerGateway.Text.Category

/-!
# Cutting text: padding at both ends, and the pieces between separators

There is always at least one piece (`pieces_ne_nil`), which is empty where nothing is cut.
-/

namespace TrackerGateway.Text

/-- The elements less the padding at both ends. -/
def trimmed (isPad : Char → Bool) (cs : List Char) : List Char :=
  ((cs.dropWhile isPad).reverse.dropWhile isPad).reverse

/-- The text less the blanks at both ends. -/
def trim (text : String) : String := String.ofList (trimmed isBlank text.toList)

/-- Puts an element in front of the first piece. -/
def ontoFirst {α : Type} (x : α) : List (List α) → List (List α)
  | first :: more => (x :: first) :: more
  | [] => [[x]]

/-- The pieces of a list between the occurrences of `separator`. -/
def pieces {α : Type} [BEq α] (separator : α) (xs : List α) : List (List α) :=
  xs.foldr (fun x found => if x == separator then [] :: found else ontoFirst x found) [[]]

/-- The pieces of a text between the occurrences of `separator`. -/
def splitAt (separator : Char) (text : String) : List String :=
  (pieces separator text.toList).map String.ofList

/-- The pieces of a text between blanks, without the empty ones. -/
def words (text : String) : List String :=
  ((text.toList.foldr (fun c found => if isBlank c then [] :: found else ontoFirst c found)
    [[]]).filter (! ·.isEmpty)).map String.ofList

/-- An upper case ASCII letter in lower case, all else unchanged. -/
def toAsciiLower (text : String) : String := text.map Char.toLower

theorem pieces_ne_nil {α : Type} [BEq α] (separator : α) (xs : List α) :
    pieces separator xs ≠ [] := by
  cases xs with
  | nil => simp [pieces]
  | cons x rest =>
    simp only [pieces, List.foldr_cons]
    split
    · simp
    · unfold ontoFirst
      split <;> simp

end TrackerGateway.Text
