import TrackerGateway.Pattern.Basic

/-!
# Matching a text with a pattern

A thread is what is left of the pattern on one way through the text so far, with the places of its
marks. Threads are kept in order of preference. A step lets each thread take one character; of
threads with the same rest the first stays, so there are never more threads than rests. Where a
thread is done, its marks are the answer unless a preferred thread gets done later.
-/

namespace TrackerGateway.Pattern

/-- The places of the marks. -/
abbrev Slots := List (Option Nat)

/-- One way through the text so far. -/
structure Thread where
  rest : List Pattern
  slots : Slots
  deriving DecidableEq, Repr

/-- Notes a place for each of the marks. -/
def noted (marks : List Nat) (position : Nat) (slots : Slots) : Slots :=
  marks.foldl (fun slots slot => slots.set slot (some position)) slots

/-- Goes through the heads of a thread in order: the threads that take the next character, up to a
head that is done. -/
def sweepHeads (next : Option Char) (position : Nat) (slots : Slots) :
    List Head → List Thread × Option Slots
  | [] => ([], none)
  | .done marks :: _ => ([], some (noted marks position slots))
  | .read marks set rest :: more =>
    let (moved, found) := sweepHeads next position slots more
    match next with
    | some c => (if set.has c then ⟨rest, noted marks position slots⟩ :: moved else moved, found)
    | none => (moved, found)

/-- Lets each thread take the next character, in order, up to a thread that is done. -/
def sweep (place : Place) (position : Nat) : List Thread → List Thread × Option Slots
  | [] => ([], none)
  | t :: more =>
    match sweepHeads place.after position t.slots (headsOf place t.rest) with
    | (moved, some found) => (moved, some found)
    | (moved, none) =>
      let (others, found) := sweep place position more
      (moved ++ others, found)

/-- The first of the threads with each rest. -/
def distinct (threads : List Thread) : List Thread :=
  (threads.foldl (fun seen t => if seen.any fun s => s.rest == t.rest then seen
    else t :: seen) []).reverse

/-- Goes on with threads from a position. Until a match is found a new thread starts at each
position, after all others. -/
def search (start : Thread) (before : Option Char) (position : Nat) (threads : List Thread)
    (found : Option Slots) : List Char → Option Slots
  | [] =>
    let threads := if found.isNone then threads ++ [start] else threads
    (sweep ⟨before, none⟩ position threads).2.orElse fun _ => found
  | c :: rest =>
    let threads := if found.isNone then threads ++ [start] else threads
    let (moved, better) := sweep ⟨before, some c⟩ position threads
    search start (some c) (position + 1) (distinct moved) (better.orElse fun _ => found) rest

/-- A pattern and the number of its groups. -/
structure Compiled where
  pattern : Pattern
  groupCount : Nat
  deriving DecidableEq, Repr

/-- What a group matched, if it took part. -/
def slice (text : List Char) : Option Nat → Option Nat → Option (List Char)
  | some first, some last => some ((text.drop first).take (last - first))
  | _, _ => none

/-- The texts of the groups, where the pattern matches. -/
def Compiled.match? (p : Compiled) (text : List Char) : Option (List (Option (List Char))) :=
  let start : Thread := ⟨[p.pattern], List.replicate (2 * p.groupCount) none⟩
  (search start none 0 [] none text).map fun slots =>
    (List.range p.groupCount).map fun i =>
      slice text (slots.getD (2 * i) none) (slots.getD (2 * i + 1) none)

end TrackerGateway.Pattern
