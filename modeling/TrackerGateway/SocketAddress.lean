import TrackerGateway.Bytes.Hex
import TrackerGateway.Text.Integer

/-!
# Internet socket addresses and their text: four octets or eight groups, and a port

`ofText?` reads an address, `toText` writes it. Of the runs of at least two zero groups the first
longest is written as two colons.
-/

namespace TrackerGateway

/-- Where a listener or a peer is. -/
inductive SocketAddress where
  | v4 (octets : List Nat) (port : Nat)
  | v6 (groups : List Nat) (scope : Nat) (port : Nat)
  deriving DecidableEq, Repr

namespace SocketAddress

/-- Text with a reader's place in it. -/
abbrev Rest := List Char

/-- Digits of a radix, at most `most` of them, below `bound`. Without leave, a zero stands alone. -/
def number? (radix : Nat) (most : Option Nat) (zeros : Bool) (bound : Nat) (cs : Rest) :
    Option (Nat × Rest) :=
  let digits := cs.takeWhile fun c => (Text.Integer.digit? radix c).isSome
  let rest := cs.dropWhile fun c => (Text.Integer.digit? radix c).isSome
  let value := digits.foldl (fun n c => radix * n + (Text.Integer.digit? radix c).getD 0) 0
  let tooMany := match most with
    | some m => m < digits.length
    | none => false
  if digits.isEmpty || tooMany || bound ≤ value ||
    (!zeros && digits.head? == some '0' && 1 < digits.length)
  then none else some (value, rest)

/-- A given character. -/
def mark? (c : Char) : Rest → Option Rest
  | d :: rest => if c = d then some rest else none
  | [] => none

/-- Four octets with points between. -/
def octets? (cs : Rest) : Option (List Nat × Rest) := do
  let (a, cs) ← number? 10 (some 3) false 256 cs
  let (b, cs) ← number? 10 (some 3) false 256 (← mark? '.' cs)
  let (c, cs) ← number? 10 (some 3) false 256 (← mark? '.' cs)
  let (d, cs) ← number? 10 (some 3) false 256 (← mark? '.' cs)
  some ([a, b, c, d], cs)

/-- Up to `limit` groups with colons between, the last two perhaps as four octets, which is told. -/
def groups : Nat → Bool → Rest → List Nat × Bool × Rest
  | 0, _, cs => ([], false, cs)
  | limit + 1, isFirst, cs =>
    let after := if isFirst then some cs else mark? ':' cs
    let embedded := if 1 ≤ limit then after.bind octets? else none
    match embedded with
    | some ([a, b, c, d], rest) => ([256 * a + b, 256 * c + d], true, rest)
    | _ =>
      match after.bind (number? 16 (some 4) true 65536) with
      | some (g, rest) =>
        let (more, hasOctets, rest) := groups limit false rest
        (g :: more, hasOctets, rest)
      | none => ([], false, cs)

/-- Eight groups, some zeros of which may stand as two colons. -/
def eightGroups? (cs : Rest) : Option (List Nat × Rest) :=
  let (head, hasOctets, rest) := groups 8 true cs
  if head.length = 8 then some (head, rest)
  else if hasOctets then none
  else do
    let rest ← mark? ':' rest
    let rest ← mark? ':' rest
    let (tail, _, rest) := groups (7 - head.length) true rest
    some (head ++ List.replicate (8 - head.length - tail.length) 0 ++ tail, rest)

/-- A port at the end of the text. -/
def port? (cs : Rest) : Option Nat := do
  let (port, rest) ← number? 10 none true 65536 (← mark? ':' cs)
  if rest.isEmpty then some port else none

/-- A bracketed address with groups. -/
def bracketed? (cs : Rest) : Option SocketAddress := do
  let (groups, rest) ← eightGroups? (← mark? '[' cs)
  let (scope, rest) ← match rest with
    | '%' :: rest => number? 10 none true (Nat.pow 2 32) rest
    | rest => some (0, rest)
  let port ← port? (← mark? ']' rest)
  some (.v6 groups scope port)

/-- Reads an address. -/
def ofText? (text : String) : Option SocketAddress :=
  let cs := text.toList
  match octets? cs with
  | some (octets, rest) => ((port? rest).map (.v4 octets)).orElse fun _ => bracketed? cs
  | none => bracketed? cs

/-- Numbers with points between. -/
def octetsText (octets : List Nat) : String := ".".intercalate (octets.map toString)

/-- Groups with colons between. -/
def groupsText (groups : List Nat) : String :=
  ":".intercalate (groups.map fun g => String.ofList (Nat.toDigits 16 g))

/-- The number of zeros in front. -/
def zeroRun (groups : List Nat) : Nat := (groups.takeWhile (· == 0)).length

/-- The length of the longest run of zeros, and where the first of that length starts. -/
def longestZeros (groups : List Nat) : Nat × Nat :=
  (List.range groups.length).foldl (fun best start =>
    let run := zeroRun (groups.drop start)
    if best.1 < run then (run, start) else best) (0, 0)

/-- An address of eight groups. -/
def v6Text (groups : List Nat) : String :=
  match groups with
  | [0, 0, 0, 0, 0, 65535, a, b] => "::ffff:" ++ octetsText [a / 256, a % 256, b / 256, b % 256]
  | _ =>
    let (run, start) := longestZeros groups
    if 1 < run then groupsText (groups.take start) ++ "::" ++ groupsText (groups.drop (start + run))
    else groupsText groups

/-- Writes an address. -/
def toText : SocketAddress → String
  | .v4 octets port => octetsText octets ++ ":" ++ toString port
  | .v6 groups scope port =>
    "[" ++ v6Text groups ++ (if scope = 0 then ""
      else "%" ++ toString scope) ++ "]:" ++ toString port

end SocketAddress
end TrackerGateway
