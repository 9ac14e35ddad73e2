import Mathlib.Data.Nat.Digits.Defs
import TrackerGateway.Proofs.Text.Fronts
import TrackerGateway.Proofs.Text.Integers
import TrackerGateway.SocketAddress

/-!
# Socket addresses come back as they were written

What is read as an address has four octets or eight groups within their bounds (`Real`), and such
an address is read back from its text (`ofText?_toText`). Numbers are read as far as there are
digits, so a group is told from an octet by what follows it: an octet that is not the last has a
point behind it.
-/

namespace TrackerGateway.SocketAddress

open Text (takeWhile_of_stops dropWhile_of_stops)
open Text.Integer (digit?)

variable {radix bound n : Nat} {most : Option Nat} {zeros : Bool} {rest : Rest}

/-! ### Numbers -/

/-- Whether no digit of a radix comes next. -/
def NoDigit (radix : Nat) (rest : Rest) : Prop := ∀ c ∈ rest.head?, digit? radix c = none

theorem takeWhile_digits {digits : List Char}
    (isDigit : ∀ c ∈ digits, (digit? radix c).isSome = true) (ends : NoDigit radix rest) :
    (digits ++ rest).takeWhile (fun c => (digit? radix c).isSome) = digits ∧
      (digits ++ rest).dropWhile (fun c => (digit? radix c).isSome) = rest := by
  have stops : Text.Stops (fun c => (digit? radix c).isSome) rest := fun c first =>
    Option.isSome_eq_false_iff.2 (Option.isNone_iff_eq_none.2 (ends c first))
  exact ⟨takeWhile_of_stops isDigit stops, dropWhile_of_stops isDigit stops⟩

theorem number?_written (above : 1 < radix) (small : radix ≤ 16) (below : n < bound)
    (short : ∀ m ∈ most, (Nat.toDigits radix n).length ≤ m)
    (plain : zeros = false → (Nat.toDigits radix n).head? = some '0' →
      (Nat.toDigits radix n).length ≤ 1)
    (ends : NoDigit radix rest) :
    number? radix most zeros bound (Nat.toDigits radix n ++ rest) = some (n, rest) := by
  obtain ⟨isDigit, value⟩ := Text.Integer.valueAfter_toDigits_of_le above small n
  obtain ⟨front, back⟩ := takeWhile_digits isDigit ends
  have some_there : (Nat.toDigits radix n).isEmpty = false := by
    rw [List.isEmpty_eq_false_iff]
    exact Nat.toDigits_ne_nil
  have zero : (!zeros && (Nat.toDigits radix n).head? == some '0' && decide
      (1 < (Nat.toDigits radix n).length)) = false := by
    cases zeros with
    | true => rfl
    | false =>
      by_cases first : (Nat.toDigits radix n).head? = some '0'
      · simpa [first] using plain rfl first
      · simp [first]
  unfold number?
  dsimp only
  rw [front, back,
    show (Nat.toDigits radix n).foldl (fun n c => radix * n + (digit? radix c).getD 0) 0 =
      n from value,
    some_there, zero, decide_eq_false (Nat.not_le.2 below)]
  cases most with
  | none => rfl
  | some m => exact if_neg (by simpa using short m rfl)

theorem number?_of_noDigit (ends : NoDigit radix rest) :
    number? radix most zeros bound rest = none := by
  have front : rest.takeWhile (fun c => (digit? radix c).isSome) = [] :=
    (takeWhile_digits (fun _ member => absurd member List.not_mem_nil) ends).1
  unfold number?
  dsimp only
  rw [front]
  rfl

theorem lt_of_number? {cs : Rest} (read : number? radix most zeros bound cs = some (n, rest)) :
    n < bound := by
  unfold number? at read
  dsimp only at read
  rw [Option.ite_none_left_eq_some] at read
  obtain ⟨accepted, found⟩ := read
  rw [(Prod.mk.inj (Option.some.inj found)).1] at accepted
  simp only [Bool.or_eq_true, not_or, decide_eq_true_eq] at accepted
  exact Nat.not_le.1 accepted.1.2

theorem mark?_of_ne {c : Char} (other : rest.head? ≠ some c) : mark? c rest = none := by
  match rest with
  | [] => rfl
  | d :: rest =>
    refine if_neg ?_
    rintro rfl
    exact other rfl

/-! ### Octets -/

theorem toString_digits (n : Nat) : (toString n).toList = Nat.toDigits 10 n := by
  rw [Nat.toString_eq_repr, Nat.toList_repr]

theorem octet_written (small : n < 256) (ends : NoDigit 10 rest) :
    number? 10 (some 3) false 256 (Nat.toDigits 10 n ++ rest) = some (n, rest) := by
  refine number?_written (by decide) (by decide) small ?_ ?_ ends
  · rintro m ⟨rfl⟩
    exact Nat.toDigits_length 10 n 3 (by decide) (by omega)
  · intro _ first
    rcases Nat.eq_zero_or_pos n with rfl | positive
    · decide
    · obtain ⟨rest, shape⟩ := List.head?_eq_some_iff.1 first
      exact absurd shape (Text.Integer.toDigits_ne_zero_cons positive rest)

theorem octets?_written {a b c d : Nat} (first : a < 256) (second : b < 256) (third : c < 256)
    (last : d < 256) (ends : NoDigit 10 rest) :
    octets? ((octetsText [a, b, c, d]).toList ++ rest) = some ([a, b, c, d], rest) := by
  have point (tail : Rest) : NoDigit 10 ('.' :: tail) := fun c same => by cases same; rfl
  have shape : (octetsText [a, b, c, d]).toList ++ rest =
      Nat.toDigits 10 a ++ '.' :: (Nat.toDigits 10 b ++ '.' :: (Nat.toDigits 10 c ++ '.' ::
        (Nat.toDigits 10 d ++ rest))) := by
    simp [octetsText]
  rw [shape]
  unfold octets?
  rw [octet_written first (point _)]
  simp only [mark?, if_true, Option.bind_eq_bind, Option.bind_some]
  rw [octet_written second (point _)]
  simp only [if_true, Option.bind_some]
  rw [octet_written third (point _)]
  simp only [if_true, Option.bind_some]
  rw [octet_written last ends]
  rfl

/-! ### Groups -/

/-- Whether a list of groups cannot go on. -/
structure Stops (rest : Rest) : Prop where
  noDigit : NoDigit 16 rest
  noPoint : rest.head? ≠ some '.'
  noGroup : ∀ tail, rest = ':' :: tail → NoDigit 16 tail

theorem NoDigit.decimal (ends : NoDigit 16 rest) : NoDigit 10 rest := by
  intro c first
  have none := ends c first
  rw [digit?, Option.filter_eq_none_iff] at none ⊢
  intro d value small
  refine none d value ?_
  simp only [decide_eq_true_eq] at small ⊢
  omega

theorem group_digits (g : Nat) : ∀ c ∈ Nat.toDigits 16 g, (digit? 16 c).isSome = true :=
  (Text.Integer.valueAfter_toDigits_of_le (by decide) (by decide) g).1

theorem snd_of_number? {cs : Rest} (read : number? radix most zeros bound cs = some (n, rest)) :
    rest = cs.dropWhile fun c => (digit? radix c).isSome := by
  unfold number? at read
  dsimp only at read
  rw [Option.ite_none_left_eq_some] at read
  exact (Prod.mk.inj (Option.some.inj read.2)).2.symm

theorem head_dropWhile {digits : List Char} (isDigit : ∀ c ∈ digits, (digit? 16 c).isSome = true)
    (noPoint : rest.head? ≠ some '.') (ends : NoDigit 10 rest) :
    ((digits ++ rest).dropWhile fun c => (digit? 10 c).isSome).head? ≠ some '.' := by
  induction digits with
  | nil =>
    have back : ([] ++ rest).dropWhile (fun c => (digit? 10 c).isSome) = rest :=
      (takeWhile_digits (fun _ member => absurd member List.not_mem_nil) ends).2
    rwa [back]
  | cons c digits ih =>
    rw [List.cons_append, List.dropWhile_cons]
    -- The decimal digits end within the group or with it, and a group has no point.
    split
    · exact ih fun c member => isDigit c (List.mem_cons_of_mem _ member)
    · intro same
      cases same
      cases isDigit '.' List.mem_cons_self

/-- A number without a point behind it is not the first of four octets. -/
theorem octets?_of_noPoint {digits : List Char}
    (isDigit : ∀ c ∈ digits, (digit? 16 c).isSome = true) (noPoint : rest.head? ≠ some '.')
    (ends : NoDigit 10 rest) : octets? (digits ++ rest) = none := by
  unfold octets?
  cases read : number? 10 (some 3) false 256 (digits ++ rest) with
  | none => rfl
  | some found =>
    have back := snd_of_number? read
    have other := head_dropWhile isDigit noPoint ends
    rw [← back] at other
    simp [mark?_of_ne other]

theorem group_written (small : n < 65536) (ends : NoDigit 16 rest) :
    number? 16 (some 4) true 65536 (Nat.toDigits 16 n ++ rest) = some (n, rest) := by
  refine number?_written (by decide) (by decide) small ?_ ?_ ends
  · rintro m ⟨rfl⟩
    exact Nat.toDigits_length 16 n 4 (by decide) (by omega)
  · intro wrong
    cases wrong

/-- Groups with colons between, or with a colon before each. -/
def spelled : Bool → List Nat → List Char
  | _, [] => []
  | isFirst, g :: gs => (if isFirst then [] else [':']) ++ (Nat.toDigits 16 g ++ spelled false gs)

theorem toList_groupsText (gs : List Nat) : (groupsText gs).toList = spelled true gs := by
  have later (g : Nat) (gs : List Nat) :
      [':'].intercalate ((g :: gs).map (Nat.toDigits 16)) =
          Nat.toDigits 16 g ++ spelled false gs := by
    induction gs generalizing g with
    | nil => simp [spelled]
    | cons next gs ih =>
      rw [List.map_cons, List.map_cons, List.intercalate_cons_cons, ← List.map_cons, ih, spelled,
        List.append_assoc]
      rfl
  have texts : (groupsText gs).toList = [':'].intercalate (gs.map (Nat.toDigits 16)) := by
    simp [groupsText, String.toList_intercalate, Function.comp_def]
  rw [texts]
  match gs with
  | [] => rfl
  | g :: gs => exact later g gs

theorem head_spelled (gs : List Nat) (stops : Stops rest) :
    NoDigit 16 (spelled false gs ++ rest) ∧ (spelled false gs ++ rest).head? ≠ some '.' := by
  match gs with
  | [] => exact ⟨stops.noDigit, stops.noPoint⟩
  | g :: gs => exact ⟨fun c same => by cases same; rfl, fun same => by cases same⟩

theorem groups_written {limit : Nat} {isFirst : Bool} {gs : List Nat} (small : ∀ g ∈ gs, g < 65536)
    (few : gs.length ≤ limit) (stops : Stops rest) :
    groups limit isFirst (spelled isFirst gs ++ rest) = (gs, false, rest) := by
  induction gs generalizing limit isFirst with
  | nil =>
    -- Behind the last group stands neither another one nor four octets.
    have none_left (tail : Rest) (noDigit : NoDigit 16 tail) :
        octets? tail = none ∧ number? 16 (some 4) true 65536 tail = none := by
      refine ⟨?_, number?_of_noDigit noDigit⟩
      unfold octets?
      rw [number?_of_noDigit noDigit.decimal]
      rfl
    match limit with
    | 0 => rfl
    | limit + 1 =>
      rw [spelled, List.nil_append, groups]
      dsimp only
      cases isFirst with
      | true =>
        obtain ⟨noOctets, noGroup⟩ := none_left rest stops.noDigit
        simp [noOctets, noGroup]
      | false =>
        by_cases colon : rest.head? = some ':'
        · obtain ⟨tail, rfl⟩ := List.head?_eq_some_iff.1 colon
          obtain ⟨noOctets, noGroup⟩ := none_left tail (stops.noGroup tail rfl)
          simp [mark?, noOctets, noGroup]
        · simp [mark?_of_ne colon]
  | cons g gs ih =>
    obtain ⟨limit, rfl⟩ : ∃ k, limit = k + 1 := ⟨limit - 1, by rw [List.length_cons] at few; omega⟩
    obtain ⟨noDigit, noPoint⟩ := head_spelled gs stops
    have after : (if isFirst then some (spelled isFirst (g :: gs) ++ rest)
        else mark? ':' (spelled isFirst (g :: gs) ++ rest)) =
        some (Nat.toDigits 16 g ++ (spelled false gs ++ rest)) := by
      cases isFirst <;> simp [spelled, mark?]
    have noOctets := octets?_of_noPoint (group_digits g) noPoint noDigit.decimal
    have group := group_written (small g List.mem_cons_self) noDigit
    have later : groups limit false (spelled false gs ++ rest) = (gs, false, rest) :=
      ih (fun g member => small g (List.mem_cons_of_mem _ member)) (Nat.le_of_succ_le_succ few)
    rw [groups]
    dsimp only
    rw [after]
    simp only [Option.bind_some, noOctets, ite_self, group, later]

/-! ### Zeros -/

theorem drop_zeroRun (gs : List Nat) :
    gs = List.replicate (zeroRun gs) 0 ++ gs.drop (zeroRun gs) := by
  have zeros : gs.takeWhile (· == 0) = List.replicate (zeroRun gs) 0 := by
    refine List.eq_replicate_iff.2 ⟨rfl, fun g member => ?_⟩
    simpa using List.mem_takeWhile_imp member
  have back : gs.drop (zeroRun gs) = gs.dropWhile (· == 0) :=
    calc gs.drop (zeroRun gs)
      _ = (gs.takeWhile (· == 0) ++ gs.dropWhile (· == 0)).drop (gs.takeWhile (· == 0)).length := by
        rw [List.takeWhile_append_dropWhile]
        rfl
      _ = gs.dropWhile (· == 0) := List.drop_left
  rw [back, ← zeros, List.takeWhile_append_dropWhile]

theorem longestZeros_spec (gs : List Nat) :
    (longestZeros gs).1 = 0 ∨ zeroRun (gs.drop (longestZeros gs).2) = (longestZeros gs).1 := by
  have step (starts : List Nat) (best : Nat × Nat)
      (known : best.1 = 0 ∨ zeroRun (gs.drop best.2) = best.1) :
      let found := starts.foldl (fun best start =>
        let run := zeroRun (gs.drop start)
        if best.1 < run then (run, start) else best) best
      found.1 = 0 ∨ zeroRun (gs.drop found.2) = found.1 := by
    induction starts generalizing best with
    | nil => exact known
    | cons start starts ih =>
      refine ih _ ?_
      dsimp only
      split
      · exact .inr rfl
      · exact known
  exact step _ _ (.inl rfl)

/-- The groups around the zeros that are left out. -/
theorem split_longestZeros {gs : List Nat} {run start : Nat}
    (longest : longestZeros gs = (run, start)) (several : 1 < run) :
    gs = gs.take start ++ (List.replicate run 0 ++ gs.drop (start + run)) := by
  have known := longestZeros_spec gs
  rw [longest] at known
  rcases known with none | known
  · exact absurd several (by dsimp only at none; omega)
  · have zeros := drop_zeroRun (gs.drop start)
    rw [known, List.drop_drop] at zeros
    rw [← zeros, List.take_append_drop]

/-! ### Eight groups -/

theorem stops_colons (tail : Rest) : Stops (':' :: ':' :: tail) where
  noDigit c first := by
    cases first
    rfl
  noPoint first := by cases first
  noGroup back same c first := by
    cases same
    cases first
    rfl

/-- Whether an address ends here. -/
def Closes (rest : Rest) : Prop := rest.head? = some ']' ∨ rest.head? = some '%'

theorem Closes.stops (closes : Closes rest) : Stops rest := by
  match rest, closes with
  | c :: rest, closes =>
    have one : c = ']' ∨ c = '%' := by simpa [Closes] using closes
    rcases one with rfl | rfl
    · exact ⟨fun c first => by cases first; rfl, fun first => (by cases first),
        fun tail same => (by cases same)⟩
    · exact ⟨fun c first => by cases first; rfl, fun first => (by cases first),
        fun tail same => (by cases same)⟩

theorem eightGroups?_full {gs : List Nat} (eight : gs.length = 8) (small : ∀ g ∈ gs, g < 65536)
    (closes : Closes rest) :
    eightGroups? ((groupsText gs).toList ++ rest) = some (gs, rest) := by
  have read : groups 8 true (spelled true gs ++ rest) = (gs, false, rest) :=
    groups_written small (Nat.le_of_eq eight) closes.stops
  rw [toList_groupsText]
  unfold eightGroups?
  rw [read]
  exact if_pos eight

theorem eightGroups?_short {front back : List Nat} {run : Nat} (several : 1 < run)
    (eight : front.length + run + back.length = 8) (small : ∀ g ∈ front ++ back, g < 65536)
    (closes : Closes rest) :
    eightGroups? ((groupsText front ++ "::" ++ groupsText back).toList ++ rest) =
      some (front ++ (List.replicate run 0 ++ back), rest) := by
  have head : groups 8 true (spelled true front ++ (':' :: ':' :: (spelled true back ++ rest))) =
      (front, false, ':' :: ':' :: (spelled true back ++ rest)) :=
    groups_written (fun g member => small g (List.mem_append_left _ member)) (by omega)
      (stops_colons _)
  have tail : groups (7 - front.length) true (spelled true back ++ rest) = (back, false, rest) :=
    groups_written (fun g member => small g (List.mem_append_right _ member))
      (by omega) closes.stops
  have shape : (groupsText front ++ "::" ++ groupsText back).toList ++ rest =
      spelled true front ++ (':' :: ':' :: (spelled true back ++ rest)) := by
    simp [toList_groupsText]
  rw [shape]
  unfold eightGroups?
  rw [head]
  simp only [mark?, if_true, Option.bind_eq_bind, Option.bind_some, tail]
  rw [if_neg (by omega), if_neg (by decide), show 8 - front.length - back.length = run by omega,
    List.append_assoc]

theorem Closes.noDigit (closes : Closes rest) : NoDigit 10 rest := closes.stops.noDigit.decimal

theorem eightGroups?_mapped {a b : Nat} (first : a < 65536) (second : b < 65536)
    (closes : Closes rest) :
    eightGroups? (("::ffff:" ++ octetsText [a / 256, a % 256, b / 256, b % 256]).toList ++ rest) =
      some ([0, 0, 0, 0, 0, 65535, a, b], rest) := by
  have octets := octets?_written (show a / 256 < 256 by omega) (Nat.mod_lt a (by decide : 256 > 0))
    (show b / 256 < 256 by omega) (Nat.mod_lt b (by decide : 256 > 0)) closes.noDigit
  generalize written : octetsText [a / 256, a % 256, b / 256, b % 256] = text at octets ⊢
  have colon : NoDigit 16 (':' :: (text.toList ++ rest)) := fun c same => by cases same; rfl
  have digits : Nat.toDigits 16 65535 = ['f', 'f', 'f', 'f'] := by rfl
  have head : groups 8 true
      (':' :: ':' :: (Nat.toDigits 16 65535 ++ ':' :: (text.toList ++ rest))) =
      ([], false, ':' :: ':' :: (Nat.toDigits 16 65535 ++ ':' :: (text.toList ++ rest))) :=
    groups_written (fun _ member => absurd member List.not_mem_nil) (by decide) (stops_colons _)
  have last : groups 6 false (':' :: (text.toList ++ rest)) = ([a, b], true, rest) := by
    have after : mark? ':' (':' :: (text.toList ++ rest)) = some (text.toList ++ rest) := rfl
    have embedded : (if 1 ≤ 5 then (mark? ':' (':' :: (text.toList ++ rest))).bind octets?
      else none) = some ([a / 256, a % 256, b / 256, b % 256], rest) := by
      rw [if_pos (by decide), after, Option.bind_some, octets]
    rw [groups]
    simp only [Bool.false_eq_true, if_false, embedded, Nat.div_add_mod]
  have tail : groups 7 true (Nat.toDigits 16 65535 ++ ':' :: (text.toList ++ rest)) =
      ([65535, a, b], true, rest) := by
    have noOctets :=
      octets?_of_noPoint (group_digits 65535) (fun same => by cases same) colon.decimal
    have group := group_written (show 65535 < 65536 by decide) colon
    rw [groups]
    simp only [if_true, Option.bind_some, noOctets, ite_self, group, last]
  have shape : ("::ffff:" ++ text).toList ++ rest =
      ':' :: ':' :: (Nat.toDigits 16 65535 ++ ':' :: (text.toList ++ rest)) := by
    rw [digits, String.toList_append]
    rfl
  rw [shape]
  unfold eightGroups?
  rw [head]
  simp only [mark?, if_true, Option.bind_eq_bind, Option.bind_some, List.length_nil,
    Nat.sub_zero, tail]
  rfl

theorem eightGroups?_v6Text {gs : List Nat} (eight : gs.length = 8) (small : ∀ g ∈ gs, g < 65536)
    (closes : Closes rest) : eightGroups? ((v6Text gs).toList ++ rest) = some (gs, rest) := by
  unfold v6Text
  split
  · exact eightGroups?_mapped (small _ (by simp)) (small _ (by simp)) closes
  · cases longest : longestZeros gs with
    | mk run start =>
      dsimp only
      split
      · rename_i several
        have whole := split_longestZeros longest several
        have lengths : (gs.take start).length + run + (gs.drop (start + run)).length = 8 := by
          have count := congrArg List.length whole
          rw [List.length_append, List.length_append, List.length_replicate, eight] at count
          omega
        have within : ∀ g ∈ gs.take start ++ gs.drop (start + run), g < 65536 := by
          intro g member
          rcases List.mem_append.1 member with front | back
          · exact small g (List.mem_of_mem_take front)
          · exact small g (List.mem_of_mem_drop back)
        rw [eightGroups?_short several lengths within closes, ← whole]
      · exact eightGroups?_full eight small closes

/-! ### Addresses -/

/-- An address whose parts are within their bounds. -/
inductive Real : SocketAddress → Prop where
  | v4 {a b c d port : Nat} (first : a < 256) (second : b < 256) (third : c < 256) (last : d < 256)
    (portFits : port < 65536) : Real (.v4 [a, b, c, d] port)
  | v6 {groups : List Nat} {scope port : Nat} (eight : groups.length = 8)
    (small : ∀ g ∈ groups, g < 65536)
    (scopeFits : scope < 2 ^ 32) (portFits : port < 65536) : Real (.v6 groups scope port)

theorem port?_written {port : Nat} (fits : port < 65536) :
    port? (':' :: (toString port).toList) = some port := by
  have read : number? 10 none true 65536 (Nat.toDigits 10 port ++ []) = some (port, []) :=
    number?_written (by decide) (by decide) fits (fun _ wrong => by cases wrong)
      (fun wrong => by cases wrong)
      fun _ wrong => by cases wrong
  rw [List.append_nil] at read
  rw [toString_digits]
  unfold port?
  simp only [mark?, if_true, Option.bind_eq_bind, Option.bind_some, read]
  rfl

theorem toList_v6 (gs : List Nat) (scope port : Nat) : (toText (.v6 gs scope port)).toList =
    '[' :: ((v6Text gs).toList ++ ((if scope = 0 then [] else '%' :: Nat.toDigits 10 scope) ++
      ']' :: ':' :: (toString port).toList)) := by
  by_cases unscoped : scope = 0
  · simp [toText, unscoped]
  · simp [toText, unscoped]

theorem bracketed?_written {gs : List Nat} {scope port : Nat} (eight : gs.length = 8)
    (small : ∀ g ∈ gs, g < 65536) (scopeFits : scope < 2 ^ 32) (portFits : port < 65536) :
    bracketed? (toText (.v6 gs scope port)).toList = some (.v6 gs scope port) := by
  have ported := port?_written portFits
  have closing : NoDigit 10 (']' :: ':' :: (toString port).toList) := fun c same => by
    cases same; rfl
  rw [toList_v6]
  unfold bracketed?
  by_cases unscoped : scope = 0
  · subst unscoped
    have groups : eightGroups? ((v6Text gs).toList ++ ']' :: ':' :: (toString port).toList) =
        some (gs, ']' :: ':' :: (toString port).toList) :=
      eightGroups?_v6Text eight small (.inl rfl)
    simp only [mark?, if_true, List.nil_append, Option.bind_eq_bind, Option.bind_some, groups]
    split
    · rename_i same
      cases same
    · simp only [if_true, Option.bind_some, ported]
  · have groups : eightGroups? ((v6Text gs).toList ++
        ('%' :: (Nat.toDigits 10 scope ++ ']' :: ':' :: (toString port).toList))) =
        some (gs, '%' :: (Nat.toDigits 10 scope ++ ']' :: ':' :: (toString port).toList)) :=
      eightGroups?_v6Text eight small (.inr rfl)
    have zoned : number? 10 none true (Nat.pow 2 32)
        (Nat.toDigits 10 scope ++ ']' :: ':' :: (toString port).toList) =
        some (scope, ']' :: ':' :: (toString port).toList) :=
      number?_written (by decide) (by decide) scopeFits (fun _ wrong => by cases wrong)
        (fun wrong => by cases wrong) closing
    rw [if_neg unscoped, List.cons_append]
    simp only [mark?, if_true, Option.bind_eq_bind, Option.bind_some, groups, zoned, ported]

/-- An address is read back from its text. -/
theorem ofText?_toText {address : SocketAddress} (real : Real address) :
    ofText? address.toText = some address := by
  cases real with
  | @v4 a b c d port first second third last portFits =>
    have shape : (toText (.v4 [a, b, c, d] port)).toList =
        (octetsText [a, b, c, d]).toList ++ ':' :: (toString port).toList := by
      simp [toText]
    have octets := octets?_written first second third last
      (fun c (same : c ∈ (':' :: (toString port).toList).head?) => by cases same; rfl)
    unfold ofText?
    dsimp only
    rw [shape, octets]
    dsimp only
    rw [port?_written portFits]
    rfl
  | @v6 gs scope port eight small scopeFits portFits =>
    have read := bracketed?_written eight small scopeFits portFits
    have noOctets : octets? (toText (.v6 gs scope port)).toList = none := by
      rw [toList_v6]
      unfold octets?
      rw [number?_of_noDigit (fun c same => by cases same; rfl)]
      rfl
    unfold ofText?
    dsimp only
    rw [noOctets]
    exact read

theorem small_of_octets? {octets : List Nat} {cs : Rest} (read : octets? cs = some (octets, rest)) :
    ∃ a b c d, octets = [a, b, c, d] ∧ a < 256 ∧ b < 256 ∧ c < 256 ∧ d < 256 := by
  unfold octets? at read
  obtain ⟨⟨a, cs⟩, first, read⟩ := Option.bind_eq_some_iff.1 read
  obtain ⟨cs, -, read⟩ := Option.bind_eq_some_iff.1 read
  obtain ⟨⟨b, cs⟩, second, read⟩ := Option.bind_eq_some_iff.1 read
  obtain ⟨cs, -, read⟩ := Option.bind_eq_some_iff.1 read
  obtain ⟨⟨c, cs⟩, third, read⟩ := Option.bind_eq_some_iff.1 read
  obtain ⟨cs, -, read⟩ := Option.bind_eq_some_iff.1 read
  obtain ⟨⟨d, cs⟩, last, read⟩ := Option.bind_eq_some_iff.1 read
  cases read
  exact ⟨a, b, c, d, rfl, lt_of_number? first, lt_of_number? second, lt_of_number? third,
    lt_of_number? last⟩

theorem length_groups (limit : Nat) (isFirst : Bool) (cs : Rest) :
    (groups limit isFirst cs).1.length ≤ limit ∧ ∀ g ∈ (groups limit isFirst cs).1, g < 65536 := by
  induction limit generalizing isFirst cs with
  | zero => exact ⟨Nat.le_refl _, by simp [groups]⟩
  | succ limit ih =>
    rw [groups]
    dsimp only
    generalize (if isFirst = true then some cs else mark? ':' cs) = after
    split
    · rename_i a b c d rest embedded
      split at embedded
      · rename_i several
        obtain ⟨cs', -, octets⟩ := Option.bind_eq_some_iff.1 embedded
        obtain ⟨a, b, c, d, same, first, second, third, last⟩ := small_of_octets? octets
        cases same
        refine ⟨Nat.succ_le_succ several, fun g member => ?_⟩
        simp only [List.mem_cons, List.not_mem_nil, or_false] at member
        omega
      · cases embedded
    · split
      · rename_i g rest found
        obtain ⟨cs', -, number⟩ := Option.bind_eq_some_iff.1 found
        obtain ⟨few, small⟩ := ih false rest
        exact ⟨Nat.succ_le_succ few, List.forall_mem_cons.2 ⟨lt_of_number? number, small⟩⟩
      · exact ⟨Nat.zero_le _, by simp⟩

theorem eight_of_eightGroups? {gs : List Nat} {cs : Rest}
    (read : eightGroups? cs = some (gs, rest)) : gs.length = 8 ∧ ∀ g ∈ gs, g < 65536 := by
  obtain ⟨few, small⟩ := length_groups 8 true cs
  unfold eightGroups? at read
  dsimp only at read
  split at read
  · rename_i eight
    cases read
    exact ⟨eight, small⟩
  split at read
  · cases read
  · obtain ⟨cs', -, read⟩ := Option.bind_eq_some_iff.1 read
    obtain ⟨cs'', -, read⟩ := Option.bind_eq_some_iff.1 read
    obtain ⟨fewer, small'⟩ := length_groups (7 - (groups 8 true cs).1.length) true cs''
    cases read
    refine ⟨?_, fun g member => ?_⟩
    · rw [List.length_append, List.length_append, List.length_replicate]
      omega
    · rcases List.mem_append.1 member with front | back
      · rcases List.mem_append.1 front with head | zero
        · exact small g head
        · rw [List.eq_of_mem_replicate zero]
          decide
      · exact small' g back

theorem lt_of_port? {port : Nat} {cs : Rest} (read : port? cs = some port) : port < 65536 := by
  obtain ⟨cs', -, read⟩ := Option.bind_eq_some_iff.1 read
  obtain ⟨⟨n, cs''⟩, number, read⟩ := Option.bind_eq_some_iff.1 read
  dsimp only at read
  split at read
  · cases read
    exact lt_of_number? number
  · cases read

theorem real_of_bracketed? {cs : Rest} {address : SocketAddress}
    (read : bracketed? cs = some address) : Real address := by
  unfold bracketed? at read
  obtain ⟨cs', -, read⟩ := Option.bind_eq_some_iff.1 read
  obtain ⟨⟨gs, rest⟩, groups, read⟩ := Option.bind_eq_some_iff.1 read
  obtain ⟨eight, small⟩ := eight_of_eightGroups? groups
  have finish {scope : Nat} {back : Rest} (scopeFits : scope < 2 ^ 32)
      (read : ((mark? ']' back).bind fun rest => (port? rest).bind
        fun port => some (.v6 gs scope port)) = some address) : Real address := by
    obtain ⟨cs'', -, read⟩ := Option.bind_eq_some_iff.1 read
    obtain ⟨port, ported, read⟩ := Option.bind_eq_some_iff.1 read
    cases read
    exact .v6 eight small scopeFits (lt_of_port? ported)
  dsimp only at read
  split at read
  · obtain ⟨⟨scope, back⟩, zoned, read⟩ := Option.bind_eq_some_iff.1 read
    exact finish (lt_of_number? zoned) read
  · exact finish (Nat.two_pow_pos 32) read

/-- What is read as an address has its parts within their bounds. -/
theorem real_of_ofText? {text : String} {address : SocketAddress}
    (read : ofText? text = some address) : Real address := by
  unfold ofText? at read
  dsimp only at read
  split at read
  · rename_i octets rest found
    obtain ⟨a, b, c, d, rfl, first, second, third, last⟩ := small_of_octets? found
    cases ported : port? rest with
    | none =>
      rw [ported] at read
      exact real_of_bracketed? read
    | some port =>
      rw [ported] at read
      cases read
      exact .v4 first second third last (lt_of_port? ported)
  · exact real_of_bracketed? read

end TrackerGateway.SocketAddress
