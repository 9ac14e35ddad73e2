import TrackerGateway.Proofs.Text.Integers
import TrackerGateway.Proofs.Toml.Texts
import TrackerGateway.Toml.Reader

/-!
# Keys and values come back as they were written

Keys without quotes, alone or as a path, and the values that stand behind a key on one line
(`Plain`) are read back in front of whatever goes on without being a part of them
(`splitKey_written`, `value_written`).
-/

namespace TrackerGateway.Toml

open Text (Stops stops_cons takeWhile_of_stops dropWhile_of_stops)
open Text.Integer (Range)

namespace Number

/-! ### Integers -/

theorem after?_of_notMem {c : Char} {word : List Char} (absent : c ∉ word) :
    after? c word = none := by
  match word with
  | [] => rfl
  | d :: rest =>
    refine if_neg ?_
    rintro rfl
    exact absent List.mem_cons_self

theorem snd_of_digits? {count value : Nat} {word rest : List Char}
    (read : digits? count word = some (value, rest)) :
    rest = word.drop count := by
  unfold digits? at read
  dsimp only at read
  split at read
  · cases read
    rfl
  · cases read

theorem date?_of_notMem {word : List Char} (absent : '-' ∉ word.drop 4) : date? word = none := by
  cases read : digits? 4 word with
  | none =>
    unfold date?
    rw [read]
    rfl
  | some found =>
    have none_after := after?_of_notMem absent
    rw [← snd_of_digits? read] at none_after
    unfold date?
    rw [read]
    simp [none_after]

theorem time?_of_notMem {word : List Char} (absent : ':' ∉ word) : time? word = none := by
  have hourMinute : hourMinute? word = none := by
    cases read : digits? 2 word with
    | none =>
      unfold hourMinute?
      rw [read]
      rfl
    | some found =>
      have none_after : after? ':' (word.drop 2) = none :=
        after?_of_notMem fun member => absent (List.mem_of_mem_drop member)
      rw [← snd_of_digits? read] at none_after
      unfold hourMinute?
      rw [read]
      simp [none_after]
  unfold time?
  rw [hourMinute]
  rfl

theorem isDigits_of_all {isDigit : Char → Bool} {word : List Char} (some_there : word ≠ [])
    (all : ∀ c ∈ word, isDigit c = true) (bare : '_' ∉ word) : isDigits isDigit word = true := by
  induction word with
  | nil => exact absurd rfl some_there
  | cons c rest ih =>
    match rest with
    | [] => exact all c List.mem_cons_self
    | d :: rest =>
      have other : d ≠ '_' := by
        rintro rfl
        simp at bare
      have later :=
        ih (List.cons_ne_nil _ _) (fun e member => all e (List.mem_cons_of_mem _ member))
        fun member => bare (List.mem_cons_of_mem _ member)
      unfold isDigits
      split
      · rename_i same
        cases same
      · rename_i same
        cases same
      · rename_i same
        exact absurd (List.cons.inj (List.cons.inj same).2).1 other
      · rename_i same
        cases same
        rw [all _ List.mem_cons_self, later]
        rfl

variable {n : Int}

theorem tail_toString {c : Char} (member : c ∈ (toString n).toList.tail) :
    Text.isAsciiDigit c = true := by
  have digits := (Text.Integer.valueAfter_toDigits n.natAbs).1
  apply Decimal.isAsciiDigit_of_isDigit
  rw [Text.Integer.toList_toString] at member
  split at member
  · exact digits c member
  · exact digits c (List.mem_of_mem_tail member)

theorem notMem_toString {c : Char} (notMinus : c ≠ '-') (noDigit : Text.isAsciiDigit c = false) :
    c ∉ (toString n).toList := by
  intro member
  rcases Text.Integer.eq_minus_or_isDigit member with same | isDigit
  · exact notMinus same
  · rw [Decimal.isAsciiDigit_of_isDigit isDigit] at noDigit
    cases noDigit

theorem isMoment_toString : isMoment (toString n).toList = false := by
  have noDate : date? (toString n).toList = none := by
    refine date?_of_notMem fun member => ?_
    -- A date has a minus behind its fourth digit; an integer has one in front only.
    have inTail : '-' ∈ (toString n).toList.tail := by
      rw [← List.drop_one]
      have later : '-' ∈ ((toString n).toList.drop 1).drop 3 := by rwa [List.drop_drop]
      exact List.mem_of_mem_drop later
    cases tail_toString inTail
  have noTime : time? (toString n).toList = none :=
    time?_of_notMem (notMem_toString (by decide) rfl)
  unfold isMoment
  rw [noDate, noTime]
  rfl

theorem isWhole_toDigits (n : Nat) : (Nat.toDigits 10 n == ['0'] ||
    ((Nat.toDigits 10 n).head? != some '0' && isDigits Text.isAsciiDigit (Nat.toDigits 10 n))) =
        true := by
  rcases Nat.eq_zero_or_pos n with rfl | positive
  · rw [Nat.toDigits_zero]
    rfl
  · have digits := (Text.Integer.valueAfter_toDigits n).1
    have noZero : ((Nat.toDigits 10 n).head? != some '0') = true := by
      rw [bne_iff_ne]
      intro zero
      obtain ⟨rest, shape⟩ := List.head?_eq_some_iff.1 zero
      exact Text.Integer.toDigits_ne_zero_cons positive rest shape
    rw [noZero, isDigits_of_all Nat.toDigits_ne_nil
        (fun c member => Decimal.isAsciiDigit_of_isDigit (digits c member)),
      Bool.and_true, Bool.or_true]
    intro member
    cases digits _ member

theorem isWhole_toString : isWhole (toString n).toList = true := by
  have whole := isWhole_toDigits n.natAbs
  rw [Text.Integer.toList_toString]
  split
  · exact whole
  · have digits := (Text.Integer.valueAfter_toDigits n.natAbs).1
    unfold isWhole
    split
    · rename_i same
      rw [same] at digits
      cases digits '+' List.mem_cons_self
    · rename_i same
      rw [same] at digits
      cases digits '-' List.mem_cons_self
    · exact whole

/-- An integer of 64 bits is read back from what it is printed as. -/
theorem value?_toString (fits : (Range.signed 64).holds n = true) :
    value? (toString n).toList = some (.integer n) := by
  have read : (Text.Integer.read (.signed 64) 10 (toString n).toList).toOption = some n :=
    Text.Integer.decimal?_toString (by decide) (by decide) fits
  have same : plain (toString n).toList = (toString n).toList := by
    refine List.filter_eq_self.2 fun c member => ?_
    rw [bne_iff_ne]
    rintro rfl
    exact notMem_toString (by decide) rfl member
  have known : integer? (toString n).toList = some n := by
    have noMark {c d : Char} {rest : List Char} (notMinus : d ≠ '-')
        (noDigit : Text.isAsciiDigit d = false)
        (same : (toString n).toList = c :: d :: rest) : False := by
      refine notMem_toString (n := n) notMinus noDigit ?_
      rw [same]
      exact List.mem_cons_of_mem _ List.mem_cons_self
    unfold integer?
    split
    · rename_i same
      exact (noMark (by decide) rfl same).elim
    · rename_i same
      exact (noMark (by decide) rfl same).elim
    · rename_i same
      exact (noMark (by decide) rfl same).elim
    · rw [isWhole_toString, if_pos rfl, same, read]
  unfold value?
  rw [isMoment_toString, known]
  rfl

end Number

namespace Scan

theorem map_of_read {α β : Type} {f : α → β} {scan : Scan α} {cs rest : List Char} {a : α}
    (read : scan cs = some (a, rest)) : (f <$> scan) cs = some (f a, rest) := by
  show (scan cs).bind _ = _
  rw [read]
  rfl

/-! ### Keys -/

variable {rest : List Char}

theorem blanks_eq (cs : List Char) : blanks cs = some ((), cs.dropWhile isBlank) := rfl

/-- Whether what follows is not a part of a key without quotes. -/
def Apart (rest : List Char) : Prop := ∀ c ∈ rest.head?, isBare c = false

theorem isBlank_of_isBare {c : Char} (bare : isBare c = true) : isBlank c = false := by
  rw [← Bool.not_eq_true]
  intro blank
  simp only [isBlank, Bool.or_eq_true, beq_iff_eq] at blank
  rcases blank with rfl | rfl
  · cases bare
  · cases bare

theorem isAlpha_eq (c : Char) : c.isAlpha = Text.isAsciiLetter c := by
  have upper : c.isUpper = (decide ('A' ≤ c) && decide (c ≤ 'Z')) := Bool.decide_and ..
  have lower : c.isLower = (decide ('a' ≤ c) && decide (c ≤ 'z')) := rfl
  rw [Char.isAlpha, upper, lower, Bool.or_comm, Text.isAsciiLetter]

theorem isBare_of_mem {key : String} (bare : Printer.isBare key = true) {c : Char}
    (member : c ∈ key.toList) : isBare c = true := by
  have here := List.all_eq_true.1 (Bool.and_eq_true_iff.1 bare).2 c member
  rw [Char.isAlphanum, isAlpha_eq] at here
  exact here

theorem toList_ne_nil {key : String} (bare : Printer.isBare key = true) : key.toList ≠ [] := by
  intro empty
  have known : key ≠ "" := by simpa using (Bool.and_eq_true_iff.1 bare).1
  exact known (String.toList_inj.1 empty)

theorem key_cons {key : String} (bare : Printer.isBare key = true) :
    ∃ c tail, key.toList = c :: tail ∧ isBare c = true := by
  obtain ⟨c, tail, shape⟩ := List.exists_cons_of_ne_nil (toList_ne_nil bare)
  exact ⟨c, tail, shape, isBare_of_mem bare (by rw [shape]; exact List.mem_cons_self)⟩

theorem takeWhile_key {key : String} (bare : Printer.isBare key = true) (apart : Apart rest) :
    (key.toList ++ rest).takeWhile isBare = key.toList ∧ (key.toList ++ rest).dropWhile isBare =
        rest := by
  have all : ∀ c ∈ key.toList, isBare c = true := fun c member => isBare_of_mem bare member
  exact ⟨takeWhile_of_stops all apart, dropWhile_of_stops all apart⟩

theorem keyPart_written {key : String} (bare : Printer.isBare key = true) (apart : Apart rest) :
    keyPart (key.toList ++ rest) = some (key, rest.dropWhile isBlank) := by
  obtain ⟨front, back⟩ := takeWhile_key bare apart
  obtain ⟨c, tail, shape, ofBare⟩ := key_cons bare
  have visible := isBlank_of_isBare ofBare
  have noBlanks : (key.toList ++ rest).dropWhile isBlank = key.toList ++ rest := by
    rw [shape, List.cons_append, List.dropWhile_cons_of_neg (by simp [visible])]
  have some_there : key.toList.isEmpty = false := by rw [shape]; rfl
  unfold keyPart
  simp only [bind, StateT.bind, blanks_eq, noBlanks, Option.bind_some, peek]
  have next : (key.toList ++ rest).head? = some c := by rw [shape]; rfl
  generalize (key.toList ++ rest).head? = first at next ⊢
  split
  · cases next
    cases ofBare
  · cases next
    cases ofBare
  · simp only [StateT.bind, takeWhile, front, back, bind, Option.bind_some, some_there]
    show some (String.ofList key.toList, rest.dropWhile isBlank) = _
    rw [String.ofList_toList]

/-! ### Paths -/

theorem char?_of_ne {c : Char} {cs : List Char} (other : cs.head? ≠ some c) :
    char? c cs = some (false, cs) := by
  match cs with
  | [] => rfl
  | d :: cs =>
    refine if_neg ?_
    rintro rfl
    exact other rfl

theorem path_cons (key : String) {keys : List String} (more : keys ≠ [])
    (bare : Printer.isBare key = true) :
    (Printer.path (key :: keys)).toList = key.toList ++ '.' :: (Printer.path keys).toList := by
  match keys, more with
  | next :: keys, _ =>
    simp [Printer.path, Printer.key, bare, String.toList_intercalate]

theorem path_singleton {key : String} (bare : Printer.isBare key = true) :
    Printer.path [key] = key := by
  simp [Printer.path, Printer.key, bare]

theorem path_head {keys : List String} (some_there : keys ≠ [])
    (bare : ∀ key ∈ keys, Printer.isBare key = true) :
    ∃ c tail, (Printer.path keys).toList = c :: tail ∧ isBare c = true := by
  match keys, some_there with
  | key :: keys, _ =>
    obtain ⟨c, tail, shape, ofBare⟩ := key_cons (bare key List.mem_cons_self)
    by_cases more : keys = []
    · subst more
      exact ⟨c, tail, by rw [path_singleton (bare key List.mem_cons_self), shape], ofBare⟩
    · exact ⟨c, _, by rw [path_cons key more (bare key List.mem_cons_self), shape]; rfl, ofBare⟩

theorem keyParts_written {fuel : Nat} {keys : List String} (some_there : keys ≠ [])
    (bare : ∀ key ∈ keys, Printer.isBare key = true) (within : keys.length ≤ fuel)
    (apart : Apart rest) (ends : (rest.dropWhile isBlank).head? ≠ some '.') :
    keyParts fuel ((Printer.path keys).toList ++ rest) = some (keys, rest.dropWhile isBlank) := by
  induction keys generalizing fuel with
  | nil => exact absurd rfl some_there
  | cons key keys ih =>
    obtain ⟨fuel, rfl⟩ : ∃ k, fuel = k + 1 := ⟨fuel - 1, by rw [List.length_cons] at within; omega⟩
    have ofBare := bare key List.mem_cons_self
    by_cases more : keys = []
    · subst more
      have part := keyPart_written ofBare apart
      rw [path_singleton ofBare, keyParts]
      show (keyPart _).bind _ = _
      rw [part]
      show (char? '.' _).bind _ = _
      rw [char?_of_ne ends]
      rfl
    · have later := ih more (fun key member => bare key (List.mem_cons_of_mem _ member))
        (Nat.le_of_succ_le_succ within)
      have part := keyPart_written ofBare
          fun c (here : c ∈ ('.' :: ((Printer.path keys).toList ++ rest)).head?) => by
        cases here
        rfl
      rw [path_cons key more ofBare, List.append_assoc, List.cons_append, keyParts]
      show (keyPart _).bind _ = _
      rw [part]
      show (keyParts fuel _).bind _ = _
      rw [later]
      rfl

theorem splitKey_append (path : List String) (key : String) :
    splitKey (path ++ [key]) = (path, key) := by
  induction path with
  | nil => rfl
  | cons part path ih =>
    obtain ⟨next, tail, shape⟩ : ∃ next tail, path ++ [key] = next :: tail :=
      List.exists_cons_of_ne_nil (List.append_ne_nil_of_right_ne_nil path (List.cons_ne_nil key []))
    rw [List.cons_append, shape]
    rw [shape] at ih
    show ((part :: (splitKey (next :: tail)).1, (splitKey (next :: tail)).2)) = _
    rw [ih]

/-- A path is read back up to what follows it. -/
theorem splitKey_written {path : List String} {last : String}
    (bare : ∀ key ∈ path ++ [last], Printer.isBare key = true)
    (within : path.length + 1 < depthLimit) (apart : Apart rest)
    (ends : (rest.dropWhile isBlank).head? ≠ some '.') :
    (splitKey <$> key) ((Printer.path (path ++ [last])).toList ++ rest) =
      some ((path, last), rest.dropWhile isBlank) := by
  have length : (path ++ [last]).length ≤ depthLimit - 1 := by
    rw [List.length_append, List.length_singleton]
    omega
  rw [key, map_of_read (keyParts_written (by simp) bare length apart ends), splitKey_append]

/-! ### Values -/

/-- A value that is written behind its key, other than a table or a list with elements. -/
inductive Plain : Json → Prop where
  | bool (b : Bool) : Plain (.bool b)
  | integer {n : Int} (fits : (Range.signed 64).holds n = true) : Plain (.integer n)
  | text (s : String) : Plain (.text s)
  | empty : Plain (.list [])

theorem keyword_written (b : Bool) (rest : List Char) :
    value ((Printer.value (.bool b)).toList ++ '\n' :: rest) = some (.bool b, '\n' :: rest) := by
  cases b
  · rfl
  · rfl

theorem empty_written (rest : List Char) :
    value ((Printer.value (.list [])).toList ++ '\n' :: rest) = some (.list [], '\n' :: rest) := by
  rfl

theorem valueOver_quote {inner : Option (Scan Json)} {cs : List Char} {quote : Char}
    (isQuote : quote = '"' ∨ quote = '\'') (first : cs.head? = some quote) :
    valueOver inner cs = (Json.text <$> text quote) cs := by
  unfold valueOver
  simp only [bind, StateT.bind, peek, first, Option.bind_some]
  rcases isQuote with rfl | rfl
  · rfl
  · rfl

theorem value_eq : value = valueOver (some (valueWithin 78)) := rfl

theorem text_value_written (s : String) {rest : List Char} (apart : Unquoted rest) :
    value ((Printer.value (.text s)).toList ++ rest) = some (.text s, rest) := by
  obtain ⟨quote, isQuote, first, read⟩ := text_written s apart
  have firstOf : ((Printer.text s).toList ++ rest).head? = some quote := by
    rw [List.head?_append, first]
    rfl
  rw [Printer.value, value_eq, valueOver_quote isQuote firstOf]
  exact map_of_read read

theorem valueOver_number {inner : Option (Scan Json)} {c : Char} {cs : List Char}
    (isNumber : Text.isAsciiDigit c = true ∨ c = '-') :
    valueOver inner (c :: cs) = number (c :: cs) := by
  have notOpening : ¬(c = '[' ∨ c = '\x7b') := by
    rintro (rfl | rfl)
    · exact absurd isNumber (by decide)
    · exact absurd isNumber (by decide)
  have taken : (Text.isAsciiDigit c || c == '+' || c == '-') = true := by
    rcases isNumber with digit | rfl
    · simp [digit]
    · rfl
  unfold valueOver
  simp only [bind, StateT.bind, peek, List.head?_cons, Option.bind_some]
  generalize first : some c = next
  split
  · cases first
    exact absurd isNumber (by decide)
  · cases first
    exact absurd isNumber (by decide)
  · cases first
    rw [if_neg notOpening, if_pos taken]
  · cases first

theorem number_written {word : List Char} (ofWord : ∀ c ∈ word, isWordChar c = true) {j : Json}
    (read : Number.value? word = some j) (rest : List Char) :
    number (word ++ '\n' :: rest) = some (j, '\n' :: rest) := by
  have stops : Stops isWordChar ('\n' :: rest) := stops_cons rfl rest
  have front := takeWhile_of_stops ofWord stops
  have back := dropWhile_of_stops ofWord stops
  unfold number
  simp only [bind, StateT.bind, takeWhile, front, back, Scan.rest, Option.bind_some, read]
  rfl

theorem isWordChar_toString {n : Int} {c : Char} (member : c ∈ (toString n).toList) :
    isWordChar c = true := by
  rcases Text.Integer.eq_minus_or_isDigit member with rfl | isDigit
  · rfl
  · simp [isWordChar, Decimal.isAsciiDigit_of_isDigit isDigit]

theorem toString_cons (n : Int) :
    ∃ c tail, (toString n).toList = c :: tail ∧ (Text.isAsciiDigit c = true ∨ c = '-') := by
  have some_there : (toString n).toList ≠ [] := by
    rw [Text.Integer.toList_toString]
    split
    · exact List.cons_ne_nil _ _
    · exact Nat.toDigits_ne_nil
  obtain ⟨c, tail, shape⟩ := List.exists_cons_of_ne_nil some_there
  refine ⟨c, tail, shape, ?_⟩
  have member : c ∈ (toString n).toList := by rw [shape]; exact List.mem_cons_self
  rcases Text.Integer.eq_minus_or_isDigit member with rfl | isDigit
  · exact .inr rfl
  · exact .inl (Decimal.isAsciiDigit_of_isDigit isDigit)

theorem integer_written {n : Int} (fits : (Range.signed 64).holds n = true) (rest : List Char) :
    value ((Printer.value (.integer n)).toList ++ '\n' :: rest) =
        some (.integer n, '\n' :: rest) := by
  obtain ⟨c, tail, shape, isNumber⟩ := toString_cons n
  have read := number_written (fun c => isWordChar_toString) (Number.value?_toString fits) rest
  rw [Printer.value, value_eq, shape, List.cons_append, valueOver_number isNumber]
  rw [shape] at read
  exact read

variable {j : Json}

/-- A value that stands behind its key is read back up to the end of the line. -/
theorem value_written (plain : Plain j) (rest : List Char) :
    value ((Printer.value j).toList ++ '\n' :: rest) = some (j, '\n' :: rest) := by
  cases plain with
  | bool b => exact keyword_written b rest
  | integer fits => exact integer_written fits rest
  | text s => exact text_value_written s ⟨by simp, by simp⟩
  | empty => exact empty_written rest

theorem value_cons (plain : Plain j) :
    ∃ c tail, (Printer.value j).toList = c :: tail ∧ isBlank c = false := by
  cases plain with
  | bool b =>
    cases b
    · exact ⟨_, _, rfl, rfl⟩
    · exact ⟨_, _, rfl, rfl⟩
  | integer fits =>
    obtain ⟨c, tail, shape, isNumber⟩ := toString_cons _
    rw [Printer.value, shape]
    refine ⟨c, tail, rfl, ?_⟩
    rcases isNumber with digit | rfl
    · exact isBlank_of_isBare (by simp [isBare, digit])
    · rfl
  | text s =>
    have ends : Unquoted [] := ⟨by simp, by simp⟩
    obtain ⟨quote, isQuote, first, -⟩ := text_written s ends
    obtain ⟨tail, shape⟩ := List.head?_eq_some_iff.1 first
    rw [Printer.value, shape]
    refine ⟨quote, tail, rfl, ?_⟩
    rcases isQuote with rfl | rfl
    · rfl
    · rfl
  | empty => exact ⟨_, _, rfl, rfl⟩

/-- A key, its value and what stands between them. -/
theorem keyValue_written {key : String} (bare : Printer.isBare key = true) (plain : Plain j)
    (rest : List Char) :
    keyValue value (key.toList ++ ' ' :: '=' :: ' ' :: ((Printer.value j).toList ++ '\n' :: rest)) =
      some (([], key, j), '\n' :: rest) := by
  obtain ⟨c, tail, shape, visible⟩ := value_cons plain
  have keys : (splitKey <$> Scan.key) ((Printer.path ([] ++ [key])).toList ++
      ' ' :: '=' :: ' ' :: ((Printer.value j).toList ++ '\n' :: rest)) =
      some (([], key), '=' :: ' ' :: ((Printer.value j).toList ++ '\n' :: rest)) :=
    splitKey_written (by simpa using bare) (by decide) (fun c first => by cases first; rfl)
      fun point => by cases Option.some.inj point
  have noBlanks : (' ' :: ((Printer.value j).toList ++ '\n' :: rest)).dropWhile isBlank =
      (Printer.value j).toList ++ '\n' :: rest := by
    rw [List.dropWhile_cons_of_pos rfl, shape, List.cons_append,
      List.dropWhile_cons_of_neg (by simp [visible])]
  rw [List.nil_append, path_singleton bare] at keys
  unfold keyValue
  simp only [bind, StateT.bind, keys, Option.bind_some, char, if_true, blanks_eq, noBlanks,
    value_written plain]
  rfl

end Scan
end TrackerGateway.Toml
