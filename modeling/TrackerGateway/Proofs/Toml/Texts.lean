import TrackerGateway.Proofs.Text.Fronts
import TrackerGateway.Toml.Printer
import TrackerGateway.Toml.Scan

/-!
# Texts come back as they were written

A text in triple quotes is read along its writing, with an eye on how many quotes stand directly
before a place (`Spelled`): up to two of them are a part of the text, also at its end. Between
quotes each character is written as a piece that the reader takes in one step (`Piece`). Which of
the four forms a text is written in depends on its traits only, and in each of them it is read
back (`text_written`).
-/

namespace TrackerGateway.Toml

open Printer (Traits)
open Text (Stops stops_cons takeWhile_of_stops dropWhile_of_stops)

namespace Printer

/-! ### Traits -/

/-- Whether no more than so many of a character stand side by side, if some stand before. -/
def RunsWithin (c : Char) (most : Nat) : Nat → List Char → Prop
  | _, [] => True
  | run, d :: rest => if d = c then run + 1 ≤ most ∧ RunsWithin c most (run + 1) rest
    else RunsWithin c most 0 rest

/-- One step of looking for the longest run. -/
def runStep (c : Char) (state : Nat × Nat) (d : Char) : Nat × Nat :=
  if d = c then (max state.1 (state.2 + 1), state.2 + 1) else (state.1, 0)

theorem longestRun_eq (c : Char) (cs : List Char) :
    longestRun c cs = (cs.foldl (runStep c) (0, 0)).1 :=
  rfl

theorem le_foldl_runStep (c : Char) (cs : List Char) (state : Nat × Nat) :
    state.1 ≤ (cs.foldl (runStep c) state).1 := by
  induction cs generalizing state with
  | nil => exact Nat.le_refl _
  | cons d rest ih =>
    refine Nat.le_trans ?_ (ih (runStep c state d))
    unfold runStep
    split
    · exact Nat.le_max_left ..
    · exact Nat.le_refl _

theorem runsWithin_of_foldl {c : Char} {most : Nat} {cs : List Char} {state : Nat × Nat}
    (few : (cs.foldl (runStep c) state).1 ≤ most) : RunsWithin c most state.2 cs := by
  induction cs generalizing state with
  | nil => trivial
  | cons d rest ih =>
    have later := ih few
    have here : (runStep c state d).1 ≤ most := Nat.le_trans (le_foldl_runStep ..) few
    rw [RunsWithin]
    unfold runStep at here later
    split
    · rename_i same
      rw [if_pos same] at here later
      exact ⟨Nat.le_trans (Nat.le_max_right ..) here, later⟩
    · rename_i other
      rw [if_neg other] at later
      exact later

theorem runsWithin_of_longestRun {c : Char} {most : Nat} {cs : List Char}
    (few : longestRun c cs ≤ most) : RunsWithin c most 0 cs := by
  rw [longestRun_eq] at few
  exact runsWithin_of_foldl few

theorem notMem_of_runsWithin {c : Char} {run : Nat} {cs : List Char}
    (none : RunsWithin c 0 run cs) : c ∉ cs := by
  induction cs generalizing run with
  | nil => exact List.not_mem_nil
  | cons d rest ih =>
    rw [RunsWithin] at none
    split at none
    · omega
    · rename_i other
      rw [List.mem_cons, not_or]
      exact ⟨Ne.symm other, ih none⟩

end Printer

namespace Scan

/-! ### Single characters -/

theorem lineEnd?_of_ne {c : Char} (notLf : c ≠ '\n') (notCr : c ≠ '\r') (cs : List Char) :
    lineEnd? (c :: cs) = some (false, c :: cs) := by
  unfold lineEnd?
  split
  · rename_i same
    exact absurd (List.cons.inj same).1 notLf
  · rename_i same
    exact absurd (List.cons.inj same).1 notCr
  · rfl

theorem ne_of_isPlain {c d : Char} (plain : isPlain c = true) (other : isPlain d = false) :
    c ≠ d := by
  rintro rfl
  rw [plain] at other
  cases other

theorem lineEnd?_of_isPlain {c : Char} (plain : isPlain c = true) (cs : List Char) :
    lineEnd? (c :: cs) = some (false, c :: cs) :=
  lineEnd?_of_ne (ne_of_isPlain plain rfl) (ne_of_isPlain plain rfl) cs

variable {quote c : Char} {fuel : Nat} {seen cs rest : List Char}

theorem linesOnto_lineEnd :
    linesOnto quote (fuel + 1) seen ('\n' :: cs) = linesOnto quote fuel ('\n' :: seen) cs :=
  rfl

/-- What happens at a character that ends no line. -/
theorem linesOnto_cons (apart : lineEnd? (c :: cs) = some (false, c :: cs)) :
    linesOnto quote (fuel + 1) seen (c :: cs) =
      (if c = quote then do
        let (seen, ends) ← quoteRun quote seen
        if ends then pure seen.reverse else linesOnto quote fuel seen
      else if c = '\\' ∧ quote = '"' then
        match continued? cs with
        | some cs => do
          goOn cs
          linesOnto quote fuel seen
        | none => do
          goOn cs
          linesOnto quote fuel ((← escaped) :: seen)
      else if isPlain c then do
        goOn cs
        linesOnto quote fuel (c :: seen)
      else refuse : Scan (List Char)) (c :: cs) := by
  rw [linesOnto]
  show ((lineEnd? (c :: cs)).bind _) = _
  rw [apart]
  rfl

theorem linesOnto_plain (plain : isPlain c = true) (other : c ≠ quote)
    (noEscape : ¬(c = '\\' ∧ quote = '"')) :
    linesOnto quote (fuel + 1) seen (c :: cs) = linesOnto quote fuel (c :: seen) cs := by
  rw [linesOnto_cons (lineEnd?_of_isPlain plain cs), if_neg other, if_neg noEscape, if_pos plain]
  rfl

theorem linesOnto_escaped (escape : escaped cs = some (c, rest)) (same : continued? cs = none) :
    linesOnto '"' (fuel + 1) seen ('\\' :: cs) = linesOnto '"' fuel (c :: seen) rest := by
  rw [linesOnto_cons (lineEnd?_of_isPlain rfl cs), if_neg (by decide), if_pos ⟨rfl, rfl⟩, same]
  show (escaped cs).bind _ = _
  rw [escape]
  rfl

/-! ### Quotes -/

theorem takeWhile_quotes (n : Nat) (apart : cs.head? ≠ some quote) :
    ((List.replicate n quote ++ cs).takeWhile (· == quote)).length = n := by
  have stops : Stops (· == quote) cs := by
    intro c first
    rw [beq_eq_false_iff_ne]
    rintro rfl
    exact apart first
  rw [takeWhile_of_stops (by simp) stops, List.length_replicate]

theorem linesOnto_quotes (plain : isPlain quote = true) (n : Nat) :
    linesOnto quote (fuel + 1) seen (List.replicate (n + 1) quote ++ cs) =
      ((quoteRun quote seen >>= fun found =>
        if found.2 then pure found.1.reverse else linesOnto quote fuel found.1) : Scan (List Char))
        (List.replicate (n + 1) quote ++ cs) := by
  rw [List.replicate_succ, List.cons_append, linesOnto_cons (lineEnd?_of_isPlain plain _),
    if_pos rfl]

/-- One or two quotes that another character follows belong to the text. -/
theorem linesOnto_few (plain : isPlain quote = true) {n : Nat} (few : n < 2)
    (apart : cs.head? ≠ some quote) :
    linesOnto quote (fuel + 1) seen (List.replicate (n + 1) quote ++ cs) =
      linesOnto quote fuel (List.replicate (n + 1) quote ++ seen) cs := by
  have run : quoteRun quote seen (List.replicate (n + 1) quote ++ cs) =
      some ((List.replicate (n + 1) quote ++ seen, false), cs) := by
    have here := takeWhile_quotes (n + 1) apart
    unfold quoteRun
    simp only [bind, StateT.bind, Scan.rest, here, Option.bind_some]
    rw [if_pos (by omega), List.drop_left' List.length_replicate]
    rfl
  rw [linesOnto_quotes plain]
  show (quoteRun quote seen _).bind _ = _
  rw [run]
  rfl

/-- Of three to five quotes the last three end the text. -/
theorem linesOnto_end (plain : isPlain quote = true) {n : Nat} (few : n ≤ 2)
    (apart : rest.head? ≠ some quote) :
    linesOnto quote (fuel + 1) seen (List.replicate (n + 3) quote ++ rest) =
      some ((List.replicate n quote ++ seen).reverse, rest) := by
  have run : quoteRun quote seen (List.replicate (n + 3) quote ++ rest) =
      some ((List.replicate n quote ++ seen, true), rest) := by
    have here := takeWhile_quotes (n + 3) apart
    have most : min (n + 3) 5 = n + 3 := by omega
    unfold quoteRun
    simp only [bind, StateT.bind, Scan.rest, here, Option.bind_some]
    rw [if_neg (by omega), most, List.drop_left' List.length_replicate]
    rfl
  rw [linesOnto_quotes plain]
  show (quoteRun quote seen _).bind _ = _
  rw [run]
  rfl

/-! ### Texts on several lines -/

/-- How a character is written so that the reader takes it in one step. -/
structure Piece (quote c : Char) (written : List Char) : Prop where
  apart : ∃ d more, written = d :: more ∧ d ≠ quote
  taken : ∀ fuel seen rest,
    linesOnto quote (fuel + 1) seen (written ++ rest) = linesOnto quote fuel (c :: seen) rest

/-- How characters are written after so many quotes. -/
inductive Spelled (quote : Char) : Nat → List Char → List Char → Prop where
  | nil (quotes : Nat) : Spelled quote quotes [] []
  | quote {quotes : Nat} {cs written : List Char} (few : quotes < 2)
      (rest : Spelled quote (quotes + 1) cs written) :
    Spelled quote quotes (quote :: cs) (quote :: written)
  | piece {quotes : Nat} {c : Char} {cs here written : List Char} (piece : Piece quote c here)
    (rest : Spelled quote 0 cs written) : Spelled quote quotes (c :: cs) (here ++ written)

theorem linesOnto_spelled (plain : isPlain quote = true) {quotes : Nat} {written : List Char}
    (spelled : Spelled quote quotes cs written) (few : quotes ≤ 2)
    (apart : rest.head? ≠ some quote) (enough : quotes + written.length < fuel) :
    linesOnto quote fuel seen
      (List.replicate quotes quote ++ (written ++ (List.replicate 3 quote ++ rest))) =
      some (seen.reverse ++ (List.replicate quotes quote ++ cs), rest) := by
  -- The reader takes quotes that stand side by side at once, so they stay in front of the rest
  -- until something else comes.
  induction spelled generalizing fuel seen with
  | nil quotes =>
    obtain ⟨fuel, rfl⟩ : ∃ k, fuel = k + 1 := ⟨fuel - 1, by omega⟩
    rw [List.nil_append, ← List.append_assoc, List.replicate_append_replicate,
      linesOnto_end plain few apart]
    simp
  | @quote quotes cs written fewer spelled ih =>
    have shift (back : List Char) :
        List.replicate quotes quote ++ quote :: back = List.replicate (quotes + 1) quote ++
            back := by
      rw [List.replicate_succ', List.append_assoc, List.singleton_append]
    rw [List.cons_append, shift, shift]
    exact ih fewer (by rw [List.length_cons] at enough; omega)
  | @piece quotes c cs here written piece spelled ih =>
    obtain ⟨d, more, shape, other⟩ := piece.apart
    rw [List.length_append, shape, List.length_cons] at enough
    have go (fuel : Nat) (seen : List Char) (enough : written.length + 1 < fuel) :
        linesOnto quote fuel seen (here ++ (written ++ (List.replicate 3 quote ++ rest))) =
          some (seen.reverse ++ c :: cs, rest) := by
      obtain ⟨fuel, rfl⟩ : ∃ k, fuel = k + 1 := ⟨fuel - 1, by omega⟩
      have later : linesOnto quote fuel (c :: seen) (written ++ (List.replicate 3 quote ++ rest)) =
          some ((c :: seen).reverse ++ cs, rest) := ih (by omega) (by omega)
      rw [piece.taken, later, List.reverse_cons, List.append_assoc, List.singleton_append]
    rw [List.append_assoc]
    match quotes with
    | 0 => exact go fuel seen (by omega)
    | n + 1 =>
      obtain ⟨fuel, rfl⟩ : ∃ k, fuel = k + 1 := ⟨fuel - 1, by omega⟩
      rw [linesOnto_few plain (by omega) (by rw [shape]; simpa using other), go fuel _ (by omega)]
      simp

/-! ### Escapes -/

/-- The four digits of the characters that only escapes can write. -/
theorem value_padded :
    ∀ n < 128, n < 32 ∨ n = 127 → ((Hex.padded 4 n).map Char.toUpper).length = 4 ∧
    (((Hex.padded 4 n).map Char.toUpper).mapM Hex.value?).map (·.foldl (fun n d => 16 * n + d) 0) =
        some n := by
  decide +kernel

theorem codePoint_padded {n : Nat} (low : n < 32 ∨ n = 127) (rest : List Char) :
    codePoint 4 ((Hex.padded 4 n).map Char.toUpper ++ rest) = some (Char.ofNat n, rest) := by
  obtain ⟨four, value⟩ := value_padded n (by omega) low
  obtain ⟨values, known, total⟩ := Option.map_eq_some_iff.1 value
  have valid : n.isValidChar := .inl (by omega)
  have front : ((Hex.padded 4 n).map Char.toUpper ++ rest).take 4 = _ := List.take_left' four
  have back : ((Hex.padded 4 n).map Char.toUpper ++ rest).drop 4 = _ := List.drop_left' four
  unfold codePoint
  simp only [bind, StateT.bind, Scan.rest, Option.bind_some, front, back, known, total, four,
    true_and]
  rw [if_pos valid]
  rfl

theorem isPlain_of_isControl {c : Char} (visible : Printer.isControl c = false)
    (noLineEnd : c ≠ '\n') : isPlain c = true := by
  by_cases tab : c = '\t'
  · rw [tab]
    rfl
  · simp only [Printer.isControl, Bool.or_eq_false_iff, Bool.and_eq_false_iff,
      decide_eq_false_iff_not,
      bne_eq_false_iff_eq, tab, noLineEnd, or_false, beq_eq_false_iff_ne] at visible
    simp only [isPlain, Bool.or_eq_true, Bool.and_eq_true, decide_eq_true_eq]
    exact .inr ⟨Nat.not_lt.1 visible.1, visible.2⟩

/-- A character other than a quote is written as an escape, or as itself. -/
theorem escape_cases (lines : Bool) (c : Char) :
    (∃ d tail, Printer.escape lines c = '\\' :: d :: tail ∧
      (d ≠ '\n' ∧ isBlank d = false ∧ d ≠ '\r') ∧
      ∀ rest, escaped (d :: tail ++ rest) = some (c, rest)) ∨
    (Printer.escape lines c = [c] ∧ c ≠ '\\' ∧ (isPlain c = true ∨ lines = true ∧ c = '\n')) := by
  unfold Printer.escape
  split
  · rename_i same
    exact .inl ⟨'\\', [], rfl, by decide, fun rest => by rw [same]; rfl⟩
  rename_i noEscape
  split
  · rename_i same
    exact .inl ⟨'t', [], rfl, by decide, fun rest => by rw [same]; rfl⟩
  rename_i noTab
  split
  · rename_i same
    split
    · rename_i several
      exact .inr ⟨by rw [same], noEscape, .inr ⟨several, same⟩⟩
    · exact .inl ⟨'n', [], rfl, by decide, fun rest => by rw [same]; rfl⟩
  rename_i noLineEnd
  split
  · rename_i same
    exact .inl ⟨'r', [], rfl, by decide, fun rest => by rw [same]; rfl⟩
  split
  · rename_i same
    exact .inl ⟨'b', [], rfl, by decide, fun rest => by rw [← Char.ofNat_toNat c, same]; rfl⟩
  split
  · rename_i same
    exact .inl ⟨'f', [], rfl, by decide, fun rest => by rw [← Char.ofNat_toNat c, same]; rfl⟩
  split
  · rename_i control
    refine .inl ⟨'u', _, rfl, by decide, fun rest => ?_⟩
    have low : c.toNat < 32 ∨ c.toNat = 127 := by
      simp only [Printer.isControl, Bool.or_eq_true, Bool.and_eq_true, decide_eq_true_eq,
        beq_iff_eq] at control
      exact control.imp (·.1.1) id
    exact (codePoint_padded low rest).trans (by rw [Char.ofNat_toNat])
  · rename_i visible
    exact .inr ⟨rfl, noEscape, .inl (isPlain_of_isControl (by simpa using visible) noLineEnd)⟩

theorem continued?_cons {d : Char} (other : d ≠ '\n' ∧ isBlank d = false ∧ d ≠ '\r')
    (cs : List Char) : continued? (d :: cs) = none := by
  obtain ⟨notLf, visible, notCr⟩ := other
  unfold continued?
  rw [List.dropWhile_cons_of_neg (by simp [visible])]
  split
  · rename_i same
    exact absurd (List.cons.inj same).1 notLf
  · rename_i same
    exact absurd (List.cons.inj same).1 notCr
  · rfl

/-! ### The writing of texts on several lines -/

theorem piece_of_isPlain (plain : isPlain c = true) (other : c ≠ quote)
    (noEscape : ¬(c = '\\' ∧ quote = '"')) : Piece quote c [c] where
  apart := ⟨c, [], rfl, other⟩
  taken _ _ _ := linesOnto_plain plain other noEscape

theorem piece_lineEnd (plain : isPlain quote = true) : Piece quote '\n' ['\n'] where
  apart := ⟨'\n', [], rfl, (ne_of_isPlain plain rfl).symm⟩
  taken _ _ _ := linesOnto_lineEnd

theorem piece_escape (other : c ≠ '"') : Piece '"' c (Printer.escape true c) := by
  rcases escape_cases true c with ⟨d, tail, shape, apart, read⟩ | ⟨shape, noEscape,
    plain | ⟨-, rfl⟩⟩
  · rw [shape]
    exact ⟨⟨_, _, rfl, by decide⟩, fun _ _ rest => linesOnto_escaped (read rest)
      (continued?_cons apart _)⟩
  · rw [shape]
    exact piece_of_isPlain plain other fun h => noEscape h.1
  · rw [shape]
    exact piece_lineEnd rfl

theorem piece_quote : Piece '"' '"' ['\\', '"'] where
  apart := ⟨_, _, rfl, by decide⟩
  taken _ _ _ := linesOnto_escaped rfl (continued?_cons (by decide) _)

theorem spelled_escapeAfter (quotes : Nat) (cs : List Char) :
    Spelled '"' quotes cs (Printer.escapeAfter true quotes cs) := by
  induction cs generalizing quotes with
  | nil => exact .nil quotes
  | cons c cs ih =>
    rw [Printer.escapeAfter]
    split
    · rename_i same
      subst same
      split
      · rename_i few
        exact .quote (by simpa using few) (ih _)
      · exact .piece piece_quote (ih 0)
    · rename_i other
      exact .piece (piece_escape other) (ih 0)

theorem spelled_literal {quotes : Nat} (few : Printer.RunsWithin '\'' 2 quotes cs)
    (noControls : ∀ c ∈ cs, Printer.isControl c = false) : Spelled '\'' quotes cs cs := by
  induction cs generalizing quotes with
  | nil => exact .nil quotes
  | cons c cs ih =>
    rw [Printer.RunsWithin] at few
    have later := fun d member => noControls d (List.mem_cons_of_mem _ member)
    split at few
    · rename_i same
      subst same
      exact .quote (by omega) (ih few.2 later)
    · rename_i other
      have here : Piece '\'' c [c] := by
        by_cases lineEnd : c = '\n'
        · rw [lineEnd]
          exact piece_lineEnd rfl
        · refine piece_of_isPlain
            (isPlain_of_isControl (noControls c List.mem_cons_self) lineEnd) other ?_
          exact fun h => absurd h.2 (by decide)
      exact .piece here (ih few later)

/-! ### Texts on one line -/

theorem quotedOnto_escaped (read : escaped cs = some (c, rest)) :
    quotedOnto (fuel + 1) seen ('\\' :: cs) = quotedOnto fuel (c :: seen) rest := by
  show (escaped cs).bind _ = _
  rw [read]
  rfl

theorem quotedOnto_plain (plain : isPlain c = true) (other : c ≠ '"') (noEscape : c ≠ '\\') :
    quotedOnto (fuel + 1) seen (c :: cs) = quotedOnto fuel (c :: seen) cs := by
  show (if c = '"' then _ else if c = '\\' then _ else if isPlain c then _
    else _ : Scan (List Char)) cs = _
  rw [if_neg other, if_neg noEscape, if_pos plain]

theorem quotedOnto_escapeAfter {quotes : Nat}
    (enough : (Printer.escapeAfter false quotes cs).length < fuel) :
    quotedOnto fuel seen (Printer.escapeAfter false quotes cs ++ '"' :: rest) =
      some (seen.reverse ++ cs, rest) := by
  induction cs generalizing fuel seen quotes with
  | nil =>
    obtain ⟨fuel, rfl⟩ : ∃ k, fuel = k + 1 := ⟨fuel - 1, by omega⟩
    rw [List.append_nil]
    rfl
  | cons c cs ih =>
    obtain ⟨fuel, rfl⟩ : ∃ k, fuel = k + 1 := ⟨fuel - 1, by omega⟩
    have next : seen.reverse ++ c :: cs = (c :: seen).reverse ++ cs := by simp
    rw [next]
    rw [Printer.escapeAfter] at enough ⊢
    split at enough
    · rename_i same
      rw [if_pos same, Bool.false_and, if_neg (by decide)]
      rw [Bool.false_and, if_neg (by decide), List.length_cons, List.length_cons] at enough
      rw [List.cons_append, List.cons_append, quotedOnto_escaped rfl, same]
      exact ih (by omega)
    · rename_i other
      rw [if_neg other, List.append_assoc]
      rw [List.length_append] at enough
      rcases escape_cases false c with ⟨d, tail, shape, -, read⟩ | ⟨shape, noEscape,
        plain | ⟨several, -⟩⟩
      · rw [shape, List.length_cons] at enough
        rw [shape, List.cons_append, quotedOnto_escaped (read _)]
        exact ih (by omega)
      · rw [shape, List.length_singleton] at enough
        rw [shape, List.singleton_append, quotedOnto_plain plain other noEscape]
        exact ih (by omega)
      · cases several

theorem literal_append (plain : ∀ c ∈ cs, isPlain c = true ∧ c ≠ '\'') :
    literal (cs ++ '\'' :: rest) = some (cs, rest) := by
  have all : ∀ c ∈ cs, (isPlain c && c != '\'') = true := fun c member => by simp [plain c member]
  have stops : Stops (fun c => isPlain c && c != '\'') ('\'' :: rest) := stops_cons (by decide) rest
  have front := takeWhile_of_stops all stops
  have back := dropWhile_of_stops all stops
  unfold literal
  simp only [bind, StateT.bind, takeWhile, front, back, Option.bind_some]
  rfl

/-! ### The four forms -/

/-- A text on one line, which does not begin like one on several. -/
theorem text_line {body : List Char} {found : List Char}
    (short : ∀ back, body ≠ quote :: quote :: back)
    (read : lineText quote (quote :: body) = some (found, rest)) :
    text quote (quote :: body) = some (String.ofList found, rest) := by
  have one : (((quote :: body).take 3).all (· == quote) && decide (3 ≤ (quote :: body).length)) =
      false := by
    match body, short with
    | [], _ => simp
    | [_], _ => simp
    | a :: b :: back, short =>
      have apart : ¬(a = quote ∧ b = quote) := by
        rintro ⟨rfl, rfl⟩
        exact short back rfl
      simpa using apart
  unfold text
  simp only [bind, StateT.bind, Scan.rest, Option.bind_some, one]
  show (lineText quote (quote :: body)).bind _ = _
  rw [read]
  rfl

/-- A text on several lines; a line end right after the opening quotes is not a part of it. -/
theorem text_lines {body after found : List Char} {ended : Bool}
    (opening : lineEnd? body = some (ended, after))
    (read : linesOnto quote (body.length + 4) [] after = some (found, rest)) :
    text quote (List.replicate 3 quote ++ body) = some (String.ofList found, rest) := by
  have three : (((List.replicate 3 quote ++ body).take 3).all (· == quote) &&
      decide (3 ≤ (List.replicate 3 quote ++ body).length)) = true := by
    simp
  unfold text
  simp only [bind, StateT.bind, Scan.rest, Option.bind_some, three]
  show (lineEnd? body).bind _ = _
  rw [opening]
  show (linesOnto quote (body.length + 4) [] after).bind _ = _
  rw [read]
  rfl

theorem lineEnd?_escapeAfter (noLineEnd : '\n' ∉ cs) (back : List Char) :
    lineEnd? (Printer.escapeAfter true 0 cs ++ '"' :: back) =
      some (false, Printer.escapeAfter true 0 cs ++ '"' :: back) := by
  match cs, noLineEnd with
  | [], _ => rfl
  | c :: cs, noLineEnd =>
    rw [Printer.escapeAfter]
    split
    · rename_i same
      subst same
      rfl
    · rcases escape_cases true c with ⟨d, tail, shape, -, -⟩ | ⟨shape, -, plain | ⟨-, rfl⟩⟩
      · rw [shape]
        rfl
      · rw [shape]
        exact lineEnd?_of_isPlain plain _
      · exact absurd List.mem_cons_self noLineEnd

theorem lineEnd?_literal (noLineEnd : '\n' ∉ cs)
    (noControls : ∀ c ∈ cs, Printer.isControl c = false) (back : List Char) :
    lineEnd? (cs ++ '\'' :: back) = some (false, cs ++ '\'' :: back) := by
  match cs, noLineEnd with
  | [], _ => rfl
  | c :: cs, noLineEnd =>
    refine lineEnd?_of_isPlain (isPlain_of_isControl (noControls c List.mem_cons_self) ?_) _
    rintro rfl
    exact noLineEnd List.mem_cons_self

/-- Behind the opening quotes there is a line end of its own exactly if the text has one. -/
theorem text_spelled (plain : isPlain quote = true) {written : List Char}
    (spelled : Spelled quote 0 cs written) (apart : rest.head? ≠ some quote)
    (noEnd : '\n' ∉ cs → ∀ back, lineEnd? (written ++ quote :: back) =
      some (false, written ++ quote :: back)) :
    text quote (List.replicate 3 quote ++ ((if '\n' ∈ cs then ['\n'] else []) ++
      (written ++ (List.replicate 3 quote ++ rest)))) = some (String.ofList cs, rest) := by
  have read {fuel : Nat} (enough : written.length < fuel) :
      linesOnto quote fuel [] (written ++ (List.replicate 3 quote ++ rest)) = some (cs, rest) :=
    linesOnto_spelled plain spelled (by omega) apart (by omega)
  split
  · exact text_lines rfl (read (by simp; omega))
  · rename_i noLineEnd
    exact text_lines (noEnd noLineEnd _) (read (by simp; omega))

end Scan

namespace Printer

theorem notMem_of_longestRun {c : Char} {cs : List Char} (none : longestRun c cs = 0) : c ∉ cs :=
  notMem_of_runsWithin (runsWithin_of_longestRun (Nat.le_of_eq none))

theorem all_of_controls {cs : List Char} (visible : (Traits.of cs).controls = false) :
    ∀ c ∈ cs, isControl c = false := by
  intro c member
  exact Bool.eq_false_iff.2 (List.any_eq_false.1 visible c member)

/-- What is known of a text that is written in one of the forms. -/
theorem form_cases (cs : List Char) :
    (Traits.of cs).form = ⟨true, false⟩ ∨ (Traits.of cs).form = ⟨true, true⟩ ∨
    ((Traits.of cs).form = ⟨false, false⟩ ∧ cs ≠ [] ∧ '\n' ∉ cs ∧ '\'' ∉ cs ∧ ∀ c ∈ cs,
      isControl c = false) ∨
    ((Traits.of cs).form = ⟨false, true⟩ ∧ RunsWithin '\'' 2 0 cs ∧ ∀ c ∈ cs,
        isControl c = false) := by
  unfold Traits.form
  split
  · exact .inl rfl
  rename_i notSimple
  split
  · rename_i known
    simp only [Bool.and_eq_true, Bool.not_eq_true', beq_iff_eq] at known
    obtain ⟨⟨visible, noQuote⟩, noLineEnd⟩ := known
    refine .inr (.inr (.inl ⟨rfl, ?_, ?_, notMem_of_longestRun noQuote, all_of_controls visible⟩))
    · rintro rfl
      exact notSimple rfl
    · simpa [Traits.of] using noLineEnd
  split
  · exact .inr (.inl rfl)
  split
  · rename_i known
    simp only [Bool.and_eq_true, Bool.not_eq_true', decide_eq_true_eq] at known
    exact .inr (.inr (.inr ⟨rfl, runsWithin_of_longestRun known.2, all_of_controls known.1⟩))
  · cases (Traits.of cs).lines
    · exact .inl rfl
    · exact .inr (.inl rfl)

theorem toList_text {s : String} {form : Form} (chosen : (Traits.of s.toList).form = form) :
    (text s).toList =
    List.replicate (if form.lines then 3 else 1) (if form.escapes then '"' else '\'') ++
      ((if form.lines ∧ '\n' ∈ s.toList then ['\n'] else []) ++
        ((if form.escapes then escapeAfter form.lines 0 s.toList else s.toList) ++
          List.replicate (if form.lines then 3 else 1) (if form.escapes then '"' else '\''))) := by
  subst chosen
  simp [text]

end Printer

/-- Whether something goes on without a quote. -/
def Unquoted (rest : List Char) : Prop := rest.head? ≠ some '"' ∧ rest.head? ≠ some '\''

namespace Scan

variable {cs rest : List Char}

theorem text_escapes (cs : List Char) (apart : Unquoted rest) :
    text '"' ('"' :: (Printer.escapeAfter false 0 cs ++ '"' :: rest)) =
        some (String.ofList cs, rest) := by
  refine text_line ?_ (quotedOnto_escapeAfter (by rw [List.length_append]; omega))
  intro back same
  match cs with
  | [] => exact apart.1 (by rw [(List.cons.inj same).2]; rfl)
  | c :: cs =>
    rw [Printer.escapeAfter] at same
    split at same
    · cases same
    · rename_i other
      rcases escape_cases false c with ⟨d, tail, shape, -, -⟩ | ⟨shape, -, -⟩
      · rw [shape] at same
        cases same
      · rw [shape] at same
        exact other (List.cons.inj same).1

theorem text_literal (some_there : cs ≠ []) (plain : ∀ c ∈ cs, isPlain c = true ∧ c ≠ '\'')
    (rest : List Char) :
    text '\'' ('\'' :: (cs ++ '\'' :: rest)) = some (String.ofList cs, rest) := by
  refine text_line ?_ (literal_append plain)
  intro back same
  match cs, some_there with
  | c :: cs, _ => exact (plain c List.mem_cons_self).2 (List.cons.inj same).1

end Scan

/-- A text is read back as it was written, in quotes of either kind. -/
theorem text_written (s : String) {rest : List Char} (apart : Unquoted rest) :
    ∃ quote, (quote = '"' ∨ quote = '\'') ∧ (Printer.text s).toList.head? = some quote ∧
      Scan.text quote ((Printer.text s).toList ++ rest) = some (s, rest) := by
  rcases Printer.form_cases s.toList with form | form | ⟨form, some_there, noLineEnd, noQuote,
    visible⟩ | ⟨form, few, visible⟩
  · refine ⟨'"', .inl rfl, ?_⟩
    have read := Scan.text_escapes s.toList apart
    rw [Printer.toList_text form]
    simpa using read
  · refine ⟨'"', .inl rfl, ?_⟩
    have read := Scan.text_spelled rfl (Scan.spelled_escapeAfter 0 s.toList) apart.1
      fun noLineEnd back => Scan.lineEnd?_escapeAfter noLineEnd back
    rw [Printer.toList_text form]
    simpa using read
  · refine ⟨'\'', .inr rfl, ?_⟩
    have read := Scan.text_literal some_there (fun c member =>
      ⟨Scan.isPlain_of_isControl (visible c member) (ne_of_mem_of_not_mem member noLineEnd),
        ne_of_mem_of_not_mem member noQuote⟩) rest
    rw [Printer.toList_text form]
    simpa using read
  · refine ⟨'\'', .inr rfl, ?_⟩
    have read := Scan.text_spelled rfl (Scan.spelled_literal few visible) apart.2
      fun noLineEnd back => Scan.lineEnd?_literal noLineEnd visible back
    rw [Printer.toList_text form]
    simpa using read

end TrackerGateway.Toml
