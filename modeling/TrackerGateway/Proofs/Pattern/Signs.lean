import TrackerGateway.Pattern.Source

/-!
# Patterns from text, sign by sign

A sign is the least that a reader of patterns takes at once: a unit, a repetition, a bar, or what
opens or closes a group. Reading a pattern is to take the sign in front and to do what it says,
again and again (`alternatives?_cons`).
-/

namespace TrackerGateway.Pattern.Source

/-- What is taken at once. -/
inductive Sign where
  | close
  | bar
  | repetition (least : Nat) (most : Option Nat) (isLazy : Bool)
  | part (p : Pattern)
  | flags (inner : Flags)
  | group (inner : Flags) (isNumbered : Bool)

/-- A repetition that is perhaps lazy. -/
def repetition (least : Nat) (most : Option Nat) (rest : List Char) : Sign × List Char :=
  (.repetition least most (laziness rest).1, (laziness rest).2)

/-- The sign that starts with a character, unless it opens a group. -/
def plainSign? (flags : Flags) (c : Char) (rest : List Char) : Option (Sign × List Char) :=
  match c with
  | ')' => some (.close, rest)
  | '|' => some (.bar, rest)
  | '?' => some (repetition 0 (some 1) rest)
  | '*' => some (repetition 0 none rest)
  | '+' => some (repetition 1 none rest)
  | '\x7b' => (counts? flags rest).map fun ((least, most), rest) =>
    repetition least most (skip flags rest)
  | '[' => (class? flags rest).map fun (s, rest) => (.part (.char s), rest)
  | '.' => (dot? flags).map fun s => (.part (.char s), rest)
  | '^' => some (.part (.look (startCondition flags)), rest)
  | '$' => some (.part (.look (endCondition flags)), rest)
  | '\\' => (escape? flags rest).map fun (atom, rest) => (.part (atom.pattern flags), rest)
  | c => (literal? flags c rest).map fun (atom, rest) => (.part (atom.pattern flags), rest)

/-- The sign that opens a group, and the cursor behind it. -/
def Opening.sign : Opening → Sign × Cursor
  | .group inner cursor isNumbered => (.group inner isNumbered, cursor)
  | .flags inner cursor => (.flags inner, cursor)

/-- The sign in front, and the cursor behind it. -/
def sign? (flags : Flags) (cursor : Cursor) : Option (Sign × Cursor) :=
  match cursor.rest with
  | [] => none
  | c :: rest =>
    if c = '(' then (opening? flags { cursor with rest }).map Opening.sign
    else (plainSign? flags c rest).map fun (sign, rest) => (sign, { cursor with rest })

theorem sign?_open (flags : Flags) (cs : List Char) (groupCount : Nat) (names : List String) :
    sign? flags ⟨'(' :: cs, groupCount, names⟩ =
        (opening? flags ⟨cs, groupCount, names⟩).map Opening.sign :=
  rfl

theorem sign?_cons (flags : Flags) {c : Char} (plain : c ≠ '(') (cs : List Char) (groupCount : Nat)
    (names : List String) :
    sign? flags ⟨c :: cs, groupCount, names⟩ =
      (plainSign? flags c cs).map fun found => (found.1, ⟨found.2, groupCount, names⟩) :=
  if_neg plain

/-- Does what a sign says, and reads on. -/
def follow? (fuel depth : Nat) (flags : Flags) (reading : Reading) :
    Sign → Cursor → Option (Pattern × Cursor)
  | .close, cursor => if depth = 0 then none else some (reading.pattern, cursor)
  | .bar, cursor => alternatives? fuel depth flags reading.next cursor
  | .repetition least most isLazy, cursor =>
    (reading.repeat? fun p => repeated p least most (isLazy == flags.swapGreed)).bind fun reading =>
      alternatives? fuel depth flags reading cursor
  | .part p, cursor => alternatives? fuel depth flags (reading.add (some p)) cursor
  | .flags inner, cursor => alternatives? fuel depth inner (reading.add none) cursor
  | .group inner isNumbered, opened =>
    (alternatives? fuel (depth + 1) inner .start opened).bind fun (part, closed) =>
      alternatives? fuel depth flags
        (reading.add (some (if isNumbered then group (opened.groupCount - 1) part else part)))
          closed

theorem skip_of_plain {flags : Flags} (plain : flags.spaced = false) (cs : List Char) :
    skip flags cs = cs := by
  simp [skip, plain]

theorem alternatives?_nil (fuel depth : Nat) {flags : Flags} (plain : flags.spaced = false)
    (reading : Reading) (groupCount : Nat) (names : List String) :
    alternatives? (fuel + 1) depth flags reading ⟨[], groupCount, names⟩ =
      if depth = 0 then some (reading.pattern, ⟨[], groupCount, names⟩) else none := by
  rw [alternatives?]
  simp only [skip_of_plain plain]

/-- To read on is to take the sign in front and to do what it says. -/
theorem alternatives?_cons (fuel depth : Nat) {flags : Flags} (plain : flags.spaced = false)
    (reading : Reading) (c : Char) (cs : List Char) (groupCount : Nat) (names : List String) :
    alternatives? (fuel + 1) depth flags reading ⟨c :: cs, groupCount, names⟩ =
      (sign? flags ⟨c :: cs, groupCount, names⟩).bind fun (sign, cursor) =>
        follow? fuel depth flags reading sign cursor := by
  rw [alternatives?]
  simp only [skip_of_plain plain]
  split <;> rename_i shape <;> cases shape
  case h_13 =>
    rw [sign?_open]
    cases opening? flags ⟨cs, groupCount, names⟩ with
    | none => rfl
    | some opening =>
      cases opening with
      | flags inner cursor => rfl
      | group inner opened isNumbered =>
        simp only [Opening.sign, follow?, Option.map_some, Option.bind_some]
        cases alternatives? fuel (depth + 1) inner .start opened <;> rfl
  all_goals rw [sign?_cons flags (by first | assumption | decide)]
  case h_7 =>
    simp only [plainSign?]
    cases counts? flags cs with
    | none => rfl
    | some counted =>
      simp only [skip_of_plain plain, repetition, follow?, Option.map_some, Option.bind_some]
      cases reading.repeat? _ <;> rfl
  case h_4 | h_5 | h_6 =>
    simp only [plainSign?, repetition, follow?, Option.map_some, Option.bind_some]
    cases reading.repeat? _ <;> rfl
  case h_8 => simp only [plainSign?]; cases class? flags cs <;> rfl
  case h_9 => simp only [plainSign?]; cases dot? flags <;> rfl
  case h_12 => simp only [plainSign?]; cases escape? flags cs <;> rfl
  case h_14 =>
    simp only [plainSign?, *]
    cases literal? flags c cs <;> rfl
  all_goals rfl

end TrackerGateway.Pattern.Source
