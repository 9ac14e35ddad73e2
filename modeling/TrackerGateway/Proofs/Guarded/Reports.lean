import TrackerGateway.Proofs.Guarded.Sentences
import TrackerGateway.Proofs.Text.Utf8
import TrackerGateway.Proofs.Watch.Report

/-!
# Reading reports of watches by number

The pattern of a report has as many groups as are taken of a match, and each tower that is counted
in a block of networks was read out of three values of it, so the place of what comes after the
towers is not past the end of the values, however many towers the block counts.
-/

namespace TrackerGateway

theorem Text.length_pieces_le {α : Type} [BEq α] (separator : α) (xs : List α) :
    (pieces separator xs).length ≤ xs.length + 1 := by
  induction xs with
  | nil => exact Nat.le_refl _
  | cons x xs ih =>
    rw [pieces, List.foldr_cons, ← pieces, List.length_cons]
    split
    · rw [List.length_cons]
      exact Nat.succ_le_succ ih
    · cases made : pieces separator xs with
      | nil => exact absurd made (pieces_ne_nil separator xs)
      | cons first more =>
        rw [made] at ih
        exact Nat.le_succ_of_le ih

theorem Text.length_splitAt_le (separator : Char) (text : String) :
    (splitAt separator text).length ≤ text.length + 1 := by
  rw [splitAt, List.length_map, ← String.length_toList]
  exact length_pieces_le separator text.toList

namespace Watch.Checked

open Guarded Sentence Surroundings

/-! ### Networks -/

/-- Reads the towers of known codes, then the access points, after as many values as the towers
take. -/
def readTowers (values : List String) (count : Int) (country network : Nat) (fields : List String) :
    Guarded Surroundings := do
  if count < 0 then pure ⟨.empty, false⟩
  else
    match readTriples (tower? country network) count.toNat fields with
    | (towers, none) => pure ⟨⟨towers, []⟩, false⟩
    | (towers, some _) =>
      let taken ← word (3 * count.toNat)
      let consumed ← word (4 + taken)
      if consumed ≤ values.length then
        let (points, complete) := readAccessPoints (values.drop consumed)
        pure ⟨⟨towers, points⟩, complete⟩
      else pure ⟨⟨towers, []⟩, false⟩

/-- Reads the values of a block. -/
def ofValues (values : List String) : Guarded Surroundings :=
  match values with
  | count :: _advance :: country :: network :: fields =>
    match number? (.signed 64) count, unsigned? 16 country, unsigned? 16 network with
    | some count, some country, some network => readTowers values count country network fields
    | _, _, _ => pure ⟨.empty, false⟩
  | _ => pure ⟨.empty, false⟩

/-- Things that could all be read take three values each. -/
theorem rest_of_readTriples {α : Type} {read? : String → String → String → Option α} {count : Nat}
    {values rest : List String} {found : List α}
    (read : readTriples read? count values = (found, some rest)) :
    3 * count ≤ values.length ∧ rest = values.drop (3 * count) := by
  fun_induction readTriples read? count values generalizing found with
  | case1 values =>
    obtain ⟨-, same⟩ := Prod.mk.inj read
    exact ⟨Nat.zero_le _, (Option.some.inj same).symm⟩
  | case2 count first second third values one _ more left split ih =>
    obtain ⟨-, rfl⟩ := Prod.mk.inj read
    obtain ⟨enough, left⟩ := ih split
    refine ⟨by simp only [List.length_cons]; omega, ?_⟩
    rw [left, Nat.mul_succ]
    rfl
  | case3 => cases read
  | case4 => cases read

theorem readTowers_eq (count : Int) (country network : Nat) (first second third fourth : String)
    {fields : List String} (held : 4 + fields.length < 2 ^ 64) :
    readTowers (first :: second :: third :: fourth :: fields) count country network fields =
      .ok (Surroundings.readTowers count country network fields) := by
  rw [readTowers, Surroundings.readTowers]
  split
  · rfl
  · cases read : readTriples (tower? country network) count.toNat fields with
    | mk towers left =>
      cases left with
      | none => rfl
      | some rest =>
        obtain ⟨enough, rfl⟩ := rest_of_readTriples read
        have after : (first :: second :: third :: fourth :: fields).drop (4 + 3 * count.toNat) =
            fields.drop (3 * count.toNat) := by
          rw [← List.drop_drop]
          rfl
        dsimp only
        rw [word_of_lt (by omega), ok_bind, word_of_lt (by omega), ok_bind, if_pos, after]
        · rfl
        · simp only [List.length_cons]
          omega

theorem ofValues_eq {values : List String} (held : values.length < 2 ^ 64) :
    ofValues values = .ok (Surroundings.ofValues values) := by
  match values, held with
  | count :: advance :: country :: network :: fields, held =>
    have few : 4 + fields.length < 2 ^ 64 := by
      simp only [List.length_cons] at held
      omega
    rw [ofValues, Surroundings.ofValues]
    cases number? (.signed 64) count with
    | none => rfl
    | some number =>
      cases unsigned? 16 country with
      | none => rfl
      | some country' =>
        cases unsigned? 16 network with
        | none => rfl
        | some network' =>
          exact readTowers_eq number country' network' count advance country network few
  | [], _ | [_], _ | [_, _], _ | [_, _, _], _ => rfl

/-- Reads a block. -/
def ofText (block : String) : Guarded Surroundings :=
  ofValues ((Text.splitAt ',' block).map Text.trim)

theorem ofText_eq {block : String} (held : block.length < 2 ^ 63) :
    ofText block = .ok (Surroundings.ofText block) := by
  have few := Text.length_splitAt_le ',' block
  refine ofValues_eq ?_
  rw [List.length_map]
  omega

/-! ### Status -/

/-- The names of the bits of a table that are set. -/
def namesOf (status : Nat) : List (Nat × String) → Guarded (List String)
  | [] => pure []
  | (bit, name) :: table => do
    let on ← isSet status bit
    let more ← namesOf status table
    pure (if on then name :: more else more)

/-- The report with what its status word tells. -/
def withStatus (position : Position) (status : Nat) : Guarded Position := do
  let names ← namesOf status Alarm.table
  let alarm := if names.isEmpty then none else some (",".intercalate names)
  let position := position.set? "alarm" (alarm.map .text)
  if ← isSet status Alarm.motionBit then pure (position.set "motion" (.bool true))
  else pure position

theorem namesOf_eq (status : Nat) {table : List (Nat × String)}
    (bits : ∀ entry ∈ table, entry.1 < 64) :
    namesOf status table =
        .ok ((table.filter fun entry => Bits.isSet status entry.1).map (·.2)) := by
  induction table with
  | nil => rfl
  | cons entry table ih =>
    rw [List.forall_mem_cons] at bits
    rw [namesOf, isSet_of_lt bits.1, ok_bind, ih bits.2, ok_bind, List.filter_cons]
    cases Bits.isSet status entry.1 <;> rfl

theorem withStatus_eq (position : Position) (status : Nat) :
    withStatus position status = .ok (Report.withStatus position status) := by
  rw [withStatus, namesOf_eq status (by decide), ok_bind, isSet_of_lt (by decide),
    Report.withStatus, Alarm.text?, Alarm.names]
  dsimp only [ok_bind]
  split <;> rfl

/-! ### Reports -/

/-- Takes time and place. -/
def readFix (position : Position) : Pick Position := do
  let fixTime ← Pick.dateTime?
  let validity ← Pick.next
  let latitude ← Pick.coordinate? .degHem
  let longitude ← Pick.coordinate? .degHem
  let speed ← Pick.double 0
  let course ← Pick.double 0
  let altitude ← Pick.double 0
  let position := { position with
    fixTime
    valid := validity == some "A"
    latitude := latitude.getD 0
    longitude := longitude.getD 0
    speed := Units.knotsOfKph speed
    altitude }
  pure (position.setCourse course)

/-- Takes the readings that are numbers. -/
def readNumbers (position : Position) : Pick Position := do
  let satellites ← Pick.int 0
  let signal ← Pick.int 0
  let battery ← Pick.int 0
  let steps ← Pick.int 0
  pure <| (((position.set "sat" (.integer satellites)).set "rssi" (.integer signal)).set
    "batteryLevel" (.integer battery)).set "steps" (.integer steps)

/-- The report with the networks of a block. -/
def withBlock (position : Position) : Option String → Guarded Position
  | some block => do
    let surroundings ← ofText block
    pure (position.setNetwork surroundings.network)
  | none => pure position

/-- Takes all groups of a report. -/
def read : Pick Position := do
  let position ← readFix (.blank protocolName)
  let position ← readNumbers position
  let status ← Pick.hex 0
  let position ← Pick.guarded (withStatus position status)
  let block ← Pick.next
  Pick.guarded (withBlock position block)

/-- The position that a report tells by a pattern. -/
def positionOf (pattern : Pattern.Compiled) (report : String) : Guarded (Option Position) :=
  match pattern.match? report.toList with
  | none => pure none
  | some groups => do
    let (position, _) ← read ⟨groups.map (Option.map String.ofList), 0⟩
    pure (some position)

/-- The position that a report tells. A pattern that cannot be made is a trap. -/
def position? (report : String) : Guarded (Option Position) := do
  let pattern ← expect Report.pattern?
  positionOf pattern report

theorem readFix_picks (position : Position) :
    Pick.Picks (readFix position) (Report.readFix position) := by
  refine Pick.Picks.dateTime?.bind fun fixTime => ?_
  refine Pick.Picks.next.bind fun validity => ?_
  refine (Pick.Picks.coordinate? _).bind fun latitude => ?_
  refine (Pick.Picks.coordinate? _).bind fun longitude => ?_
  refine (Pick.Picks.double 0).bind fun speed => ?_
  refine (Pick.Picks.double 0).bind fun course => ?_
  exact (Pick.Picks.double 0).bind fun altitude => Pick.Picks.pure _

theorem readNumbers_picks (position : Position) :
    Pick.Picks (readNumbers position) (Report.readNumbers position) := by
  refine (Pick.Picks.int 0).bind fun satellites => ?_
  refine (Pick.Picks.int 0).bind fun signal => ?_
  refine (Pick.Picks.int 0).bind fun battery => ?_
  exact (Pick.Picks.int 0).bind fun steps => Pick.Picks.pure _

theorem withBlock_eq (position : Position) {block : Option String}
    (short : ∀ text, block = some text → text.length < 2 ^ 63) :
    withBlock position block = .ok (Report.withBlock position block) := by
  cases block with
  | none => rfl
  | some text =>
    rw [withBlock, ofText_eq (short text rfl)]
    rfl

theorem read_picks : Pick.Picks read Report.read := by
  refine (readFix_picks _).bind fun position => ?_
  refine (readNumbers_picks position).bind fun position => ?_
  refine (Pick.Picks.hex 0).bind fun status => ?_
  refine Pick.Picks.guarded_bind (withStatus_eq position status) ?_
  exact Pick.Picks.next_bind fun block short => Pick.Picks.guarded (withBlock_eq _ short)

/-- What a group matched is a part of the text. -/
theorem length_le_of_match? {pattern : Pattern.Compiled} {text : List Char}
    {groups : List (Option (List Char))} (found : pattern.match? text = some groups)
    {group : List Char} (member : some group ∈ groups) : group.length ≤ text.length := by
  rw [Pattern.Compiled.match?, Option.map_eq_some_iff] at found
  obtain ⟨slots, -, rfl⟩ := found
  obtain ⟨i, -, taken⟩ := List.mem_map.1 member
  unfold Pattern.slice at taken
  split at taken
  · cases taken
    rw [List.length_take, List.length_drop]
    omega
  · cases taken

theorem length_match? {pattern : Pattern.Compiled} {text : List Char}
    {groups : List (Option (List Char))} (found : pattern.match? text = some groups) :
    groups.length = pattern.groupCount := by
  rw [Pattern.Compiled.match?, Option.map_eq_some_iff] at found
  obtain ⟨slots, -, rfl⟩ := found
  rw [List.length_map, List.length_range]

/-- A list of twenty is what a function says of the numbers below twenty. -/
theorem exists_range_of_length {α : Type} {xs : List α} (length : xs.length = 20) (default : α) :
    ∃ f : Nat → α, xs = (List.range 20).map f := by
  refine ⟨fun i => xs.getD i default, List.ext_getElem (by simp [length]) fun i inside _ => ?_⟩
  simp [List.getElem_map, List.getD_eq_getElem?_getD, List.getElem?_eq_getElem inside]

/-- The groups of a pattern of twenty are as many as are taken. -/
theorem exists_read {texts : List (Option String)} (length : texts.length = 20)
    (short : ∀ text, some text ∈ texts → text.length < 2 ^ 63) :
    ∃ position after rest, read ⟨texts, 0⟩ = .ok (position, after) ∧
      Report.read ⟨texts, 20⟩ = .ok (position, rest) := by
  have sound : Groups.Sound ⟨texts, 0⟩ := ⟨by rw [length]; decide, short⟩
  have agree : Pick.Agree (read ⟨texts, 0⟩) (Report.read ⟨texts, texts.length⟩) :=
    read_picks ⟨texts, 0⟩ sound
  obtain ⟨f, rfl⟩ := exists_range_of_length length none
  rw [length, Report.read_range] at agree
  obtain ⟨after, picked⟩ := agree.exists_of_ok rfl
  exact ⟨_, after, _, picked, rfl⟩

/-- With a pattern of twenty groups there are enough to take. -/
theorem positionOf_eq {pattern : Pattern.Compiled} (count : pattern.groupCount = 20)
    {report : String} (held : report.length < 2 ^ 63) :
    positionOf pattern report = .ok (do
      let fields ← Fields.ofMatch? pattern report
      match Report.read fields with
      | .ok (position, _) => some position
      | .error _ => none) := by
  rw [positionOf, Fields.ofMatch?]
  cases found : pattern.match? report.toList with
  | none => rfl
  | some groups =>
    have length : (groups.map (Option.map String.ofList)).length = 20 := by
      rw [List.length_map, length_match? found, count]
    have short (text : String) (member : some text ∈ groups.map (Option.map String.ofList)) :
        text.length < 2 ^ 63 := by
      obtain ⟨group, mem, same⟩ := List.mem_map.1 member
      obtain ⟨cs, rfl, rfl⟩ := Option.map_eq_some_iff.1 same
      have part := length_le_of_match? found mem
      rw [String.length_toList] at part
      rw [String.length_ofList]
      exact Nat.lt_of_le_of_lt part held
    obtain ⟨position, after, rest, picked, taken⟩ := exists_read length short
    rw [List.length_map] at length
    simp only [Option.map_some, Option.bind_eq_bind, Option.bind_some, picked, length, taken]
    rfl

theorem position?_eq {report : String} (held : report.length < 2 ^ 63) :
    position? report = .ok (Report.position? report) := by
  unfold position? Report.position?
  rw [expect_of_eq Report.pattern?_eq, Report.pattern?_eq]
  exact positionOf_eq rfl held

end Watch.Checked
end TrackerGateway
