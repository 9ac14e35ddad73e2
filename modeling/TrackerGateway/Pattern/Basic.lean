import TrackerGateway.Pattern.CharSet

/-!
# Patterns of text

A pattern is read through its heads. A head is a way to go on at a place: the pattern is done
there, or it takes a character of a set and a rest is left. `heads` lists them in order of
preference, and of two heads that leave the same, the earlier counts. A place where a part of
interest starts or ends is a mark, which a head notes on its way.

A repetition without a greatest number takes its part again as long as that uses up characters, and
ends where it does not.
-/

namespace TrackerGateway

/-- What surrounds a place: the characters before and after it, where there are any. -/
structure Place where
  before : Option Char
  after : Option Char
  deriving DecidableEq, Repr

/-- A condition on a place. -/
inductive Look where
  | textStart
  | textEnd
  | lineStart
  | lineEnd
  /-- The start of a line that may end in a carriage return and a line feed. -/
  | anyLineStart
  | anyLineEnd
  /-- Between a character of a set and none of it. -/
  | boundary (set : CharSet)
  | noBoundary (set : CharSet)
  | wordStart (set : CharSet)
  | wordEnd (set : CharSet)
  /-- No character of a set before the place. -/
  | wordStartHalf (set : CharSet)
  /-- No character of a set after the place. -/
  | wordEndHalf (set : CharSet)
  deriving DecidableEq, Repr

namespace Look

/-- Whether there is a character, and it belongs to the set. -/
def isIn (set : CharSet) : Option Char → Bool
  | some c => set.has c
  | none => false

/-- Whether a place meets the condition. -/
def holds (place : Place) : Look → Bool
  | .textStart => place.before.isNone
  | .textEnd => place.after.isNone
  | .lineStart => place.before.isNone || place.before == some '\n'
  | .lineEnd => place.after.isNone || place.after == some '\n'
  | .anyLineStart => place.before.isNone || place.before == some '\n' ||
      (place.before == some '\r' && place.after != some '\n')
  | .anyLineEnd => place.after.isNone || place.after == some '\r' ||
      (place.after == some '\n' && place.before != some '\r')
  | .boundary set => isIn set place.before != isIn set place.after
  | .noBoundary set => isIn set place.before == isIn set place.after
  | .wordStart set => !isIn set place.before && isIn set place.after
  | .wordEnd set => isIn set place.before && !isIn set place.after
  | .wordStartHalf set => !isIn set place.before
  | .wordEndHalf set => !isIn set place.after

end Look

/-- A pattern. -/
inductive Pattern where
  /-- The empty text. -/
  | empty
  /-- One character of a set. -/
  | char (set : CharSet)
  /-- A mark at this place. -/
  | mark (slot : Nat)
  /-- A condition on this place. -/
  | look (condition : Look)
  | seq (first second : Pattern)
  | alt (first second : Pattern)
  /-- Once or more often. -/
  | plus (part : Pattern) (greedy : Bool)
  /-- What follows in a repetition after its part used up characters. -/
  | again (part : Pattern) (greedy : Bool)
  /-- Exactly so often. -/
  | times (part : Pattern) (count : Nat)
  /-- At most so often. -/
  | upTo (part : Pattern) (most : Nat) (greedy : Bool)
  deriving DecidableEq, Repr

namespace Pattern

/-- A way to go on at a place, with the marks noted there. -/
inductive Head where
  /-- Nothing is left. -/
  | done (marks : List Nat)
  /-- A character of the set comes next, and then the rest. -/
  | read (marks : List Nat) (set : CharSet) (rest : List Pattern)
  deriving DecidableEq, Repr

namespace Head

/-- The head with marks noted before its own. -/
def after (marks : List Nat) : Head → Head
  | .done more => .done (marks ++ more)
  | .read more set rest => .read (marks ++ more) set rest

/-- The heads of a part and then, where it is done, of what follows it; `following` is left too
where a character comes first. -/
def andThen (heads : List Head) (next : Unit → List Head) (following : List Pattern) : List Head :=
  heads.flatMap fun
    | .done marks => (next ()).map (after marks)
    | .read marks set rest => [.read marks set (rest ++ following)]

/-- The heads of a part that is repeated: after a character more of it may follow. -/
def looping (heads : List Head) (following : Pattern) : List Head :=
  heads.map fun
    | .done marks => .done marks
    | .read marks set rest => .read marks set (rest ++ [following])

/-- The heads that use up a character. -/
def reading (heads : List Head) : List Head :=
  heads.filter fun
    | .done _ => false
    | .read .. => true

/-- Heads with the choice to stop, first or last. -/
def orStop (heads : List Head) (greedy : Bool) : List Head :=
  if greedy then heads ++ [.done []] else .done [] :: heads

/-- The heads without those that are done after the first such. -/
def firstDone : List Head → List Head
  | [] => []
  | .done marks :: rest => .done marks :: reading rest
  | .read marks set rest :: more => .read marks set rest :: firstDone more

/-- The heads of a part so often. -/
def times (heads : List Head) (part : Pattern) : Nat → List Head
  | 0 => [.done []]
  | count + 1 => andThen heads (fun _ => times heads part count) [.times part count]

/-- The heads of a part at most so often. -/
def upTo (heads : List Head) (part : Pattern) (greedy : Bool) : Nat → List Head
  | 0 => [.done []]
  | most + 1 =>
    let more := andThen heads (fun _ => upTo heads part greedy most) [.upTo part most greedy]
    firstDone (orStop more greedy)

end Head

open Head in
/-- The ways to go on with a pattern at a place, in order of preference. -/
def heads (place : Place) : Pattern → List Head
  | .empty => [.done []]
  | .char set => [.read [] set []]
  | .mark slot => [.done [slot]]
  | .look condition => if condition.holds place then [.done []] else []
  | .seq first second =>
    firstDone (andThen (heads place first) (fun _ => heads place second) [second])
  | .alt first second => firstDone (heads place first ++ heads place second)
  | .plus part greedy => looping (heads place part) (.again part greedy)
  | .again part greedy => orStop (reading (looping (heads place part) (.again part greedy))) greedy
  | .times part count => firstDone (Head.times (heads place part) part count)
  | .upTo part most greedy => Head.upTo (heads place part) part greedy most

/-- The ways to go on with patterns that follow one another. -/
def headsOf (place : Place) : List Pattern → List Head
  | [] => [.done []]
  | p :: rest => Head.andThen (p.heads place) (fun _ => headsOf place rest) rest

/-- Patterns one after the other. -/
def sequence : List Pattern → Pattern
  | [] => .empty
  | [p] => p
  | p :: rest => .seq p (sequence rest)

/-- Patterns to choose from, the earlier preferred. -/
def choice : List Pattern → Pattern
  | [] => .empty
  | [p] => p
  | p :: rest => .alt p (choice rest)

/-- As often as wanted, or not at all. -/
def star (part : Pattern) (greedy : Bool) : Pattern :=
  if greedy then .alt (.plus part greedy) .empty else .alt .empty (.plus part greedy)

/-- Between `least` and `most` times; without `most`, as often as wanted. -/
def repeated (part : Pattern) (least : Nat) (most : Option Nat) (greedy : Bool) : Pattern :=
  match least, most with
  | 0, none => star part greedy
  | 1, none => .plus part greedy
  | n + 1, none => .seq (.times part n) (.plus part greedy)
  | 0, some 0 => .empty
  | 0, some m => .upTo part m greedy
  | n, some m => if n = m then .times part n else .seq (.times part n) (.upTo part (m - n) greedy)

/-- The part of interest with a number: marks stand before and after it. -/
def group (index : Nat) (part : Pattern) : Pattern :=
  .seq (.mark (2 * index)) (.seq part (.mark (2 * index + 1)))

/-- How many groups there are, those with lesser numbers counted too. -/
def groupCount : Pattern → Nat
  | .empty | .char _ | .look _ => 0
  | .mark slot => slot / 2 + 1
  | .seq first second | .alt first second => max first.groupCount second.groupCount
  | .plus part _ | .again part _ | .times part _ | .upTo part _ _ => part.groupCount

end Pattern
end TrackerGateway
