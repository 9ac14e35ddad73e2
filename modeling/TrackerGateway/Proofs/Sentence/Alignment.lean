import TrackerGateway.Sentence.Fields

/-!
# Readers of fields stay aligned, whatever the fields hold

A reader that takes a fixed number of fields (`Takes`) gives what hangs on these alone, leaves all
behind them, and runs over just if there are fewer. Readers put together from such readers are
such readers again, and so is each accessor: a date and a coordinate are their parts read one
after the other, and a part that is missing does not keep the others from being taken. In any
sequence of calls each one then has its own places among the fields, and no field outside them
shows in what it gives (`aligned_of_calls`).
-/

namespace TrackerGateway.Sentence

namespace Fields

/-- The fields behind so many. -/
def drop (fields : Fields) (count : Nat) : Fields := { fields with rest := fields.rest.drop count }

/-- So many fields from a place on, and no others. -/
def window (fields : Fields) (first count : Nat) : Fields :=
  { fields with rest := (fields.rest.drop first).take count }

/-- The fields with another one at a place. -/
def set (fields : Fields) (place : Nat) (field : Option String) : Fields :=
  { fields with rest := fields.rest.set place field }

@[simp] theorem drop_zero (fields : Fields) : fields.drop 0 = fields := rfl

@[simp] theorem drop_drop (fields : Fields) (first second : Nat) :
    (fields.drop first).drop second = fields.drop (first + second) := by
  rw [drop, drop, drop, List.drop_drop]

@[simp] theorem length_rest_drop (fields : Fields) (count : Nat) :
    (fields.drop count).rest.length = fields.rest.length - count := List.length_drop

@[simp] theorem total_drop (fields : Fields) (count : Nat) :
    (fields.drop count).total = fields.total :=
  rfl

end Fields

/-! ### Readers of a fixed number of fields -/

section

variable {α β : Type} {read : Read α} {count : Nat}

/-- A reader takes so many fields. -/
structure Takes (read : Read α) (count : Nat) : Prop where
  /-- Where there are fewer it runs over, which is told with the number that there were at first. -/
  overrun : ∀ fields : Fields, fields.rest.length < count → read fields = .error ⟨fields.total⟩
  /-- What it gives is the same whatever stands behind them, and that is what it leaves. -/
  found : ∀ groups, groups.length = count →
    ∃ a, ∀ more total, read ⟨groups ++ more, total⟩ = .ok (a, ⟨more, total⟩)

namespace Takes

/-- Where there are enough fields something is made of them, which is the same whatever stands
behind them. -/
theorem exists_value (takes : Takes read count) {fields : Fields}
    (enough : count ≤ fields.rest.length) :
    ∃ a, ∀ other : Fields, other.rest.take count = fields.rest.take count →
      read other = .ok (a, other.drop count) := by
  obtain ⟨a, given⟩ := takes.found (fields.rest.take count) (List.length_take_of_le enough)
  refine ⟨a, fun other front => ?_⟩
  have here := given (other.rest.drop count) other.total
  rwa [← front, List.take_append_drop] at here

theorem pure (a : α) : Takes (Pure.pure a) 0 where
  overrun _ few := absurd few (Nat.not_lt_zero _)
  found groups none := ⟨a, fun more total => by rw [List.eq_nil_of_length_eq_zero none]; rfl⟩

theorem next : Takes Fields.next 1 where
  overrun fields few := by
    obtain ⟨rest, total⟩ := fields
    obtain rfl := List.eq_nil_of_length_eq_zero (Nat.lt_one_iff.1 few)
    rfl
  found groups one := by
    obtain ⟨field, rfl⟩ := List.length_eq_one_iff.1 one
    exact ⟨field.filter (! ·.isEmpty), fun _ _ => rfl⟩

/-- One reader after the other takes as many fields as both. -/
theorem bind {first second : Nat} {after : α → Read β} (takes : Takes read first)
    (onward : ∀ a, Takes (after a) second) : Takes (read >>= after) (first + second) where
  overrun fields few := by
    show (read fields >>= fun p => after p.1 p.2) = _
    by_cases short : fields.rest.length < first
    · rw [takes.overrun _ short]
      rfl
    · obtain ⟨a, given⟩ := takes.exists_value (Nat.not_lt.1 short)
      rw [given fields rfl]
      refine (onward a).overrun (fields.drop first) ?_
      rw [Fields.length_rest_drop]
      omega
  found groups both := by
    obtain ⟨a, given⟩ := takes.found (groups.take first) (List.length_take_of_le (by omega))
    obtain ⟨b, last⟩ := (onward a).found (groups.drop first) (by rw [List.length_drop]; omega)
    refine ⟨b, fun more total => ?_⟩
    show (read ⟨groups ++ more, total⟩ >>= fun p => after p.1 p.2) = _
    have here := given (groups.drop first ++ more) total
    rw [← List.append_assoc, List.take_append_drop] at here
    rw [here]
    exact last more total

theorem map (takes : Takes read count) (change : α → β) : Takes (change <$> read) count := by
  rw [map_eq_pure_bind]
  exact takes.bind fun a => pure (change a)

/-- A reader runs over, or it makes something of its fields alone and leaves what is behind them. -/
theorem outcome (takes : Takes read count) (fields : Fields) :
    (fields.rest.length < count ∧ read fields = .error ⟨fields.total⟩) ∨
      (count ≤ fields.rest.length ∧ ∃ a, read fields = .ok (a, fields.drop count) ∧
        read (fields.window 0 count) = .ok (a, ⟨[], fields.total⟩)) := by
  by_cases few : fields.rest.length < count
  · exact .inl ⟨few, takes.overrun fields few⟩
  · have enough := Nat.not_lt.1 few
    obtain ⟨a, given⟩ := takes.exists_value enough
    refine .inr ⟨enough, a, given fields rfl, ?_⟩
    rw [given _ (List.take_take.trans (by rw [Nat.min_self, List.drop_zero])), Fields.drop,
      Fields.window, List.drop_take_self]

/-- What a reader gives is the same in two runs that have the same fields where it takes them. -/
theorem value_congr (takes : Takes read count) {fields other : Fields}
    (same : ∀ place < count, other.rest[place]? = fields.rest[place]?) :
    (read other).toOption.map Prod.fst = (read fields).toOption.map Prod.fst := by
  have front : other.rest.take count = fields.rest.take count := by
    refine List.ext_getElem? fun place => ?_
    rw [List.getElem?_take, List.getElem?_take]
    split
    · exact same place ‹_›
    · rfl
  have lengths := congrArg List.length front
  rw [List.length_take, List.length_take] at lengths
  by_cases few : fields.rest.length < count
  · rw [takes.overrun fields few, takes.overrun other (by omega)]
    rfl
  · obtain ⟨a, given⟩ := takes.exists_value (Nat.not_lt.1 few)
    rw [given fields rfl, given other front]
    rfl

end Takes

end

/-! ### Parts -/

/-- Takes the parts of a date and a time one after the other. -/
def TimeOrder.readParts (order : TimeOrder) : Read (Option Instant) := do
  let first ← Fields.int?
  let second ← Fields.int?
  let third ← Fields.int?
  let fourth ← Fields.int?
  let fifth ← Fields.int?
  let sixth ← Fields.int?
  pure (order.instant? [first, second, third, fourth, fifth, sixth])

/-- Takes the parts of a coordinate one after the other. -/
def CoordinateForm.readParts : CoordinateForm → Read (Option Float)
  | .degHem => do
    let degrees ← Fields.double?
    let hemisphere ← Fields.next
    pure (degrees.map (hemisphered hemisphere))
  | .hemDeg => do
    let hemisphere ← Fields.next
    let degrees ← Fields.double?
    pure (degrees.map (hemisphered hemisphere))
  | .degMinHem => do
    let degrees ← Fields.int?
    let minutes ← Fields.double?
    let hemisphere ← Fields.next
    pure ((degreesOf? degrees minutes).map (hemisphered hemisphere))
  | .hemDegMin => do
    let hemisphere ← Fields.next
    let degrees ← Fields.int?
    let minutes ← Fields.double?
    pure ((degreesOf? degrees minutes).map (hemisphered hemisphere))
  | .hemDegMinMin => do
    let hemisphere ← Fields.next
    let degrees ← Fields.int?
    let minutes ← Fields.int?
    let fraction ← Fields.next
    pure ((degreesOf? degrees (minutesOf? minutes fraction)).map (hemisphered hemisphere))

namespace Fields

theorem dateTime?_eq_readParts (order : TimeOrder) : dateTime? order = order.readParts := by
  simp only [dateTime?, TimeOrder.readParts, nexts, int?, map_bind, bind_map_left, bind_assoc,
    map_pure, pure_bind, List.map_cons, List.map_nil]

/-- A coordinate is taken part by part, and each part is read as what it is. -/
theorem coordinate?_eq_readParts (form : CoordinateForm) : coordinate? form = form.readParts := by
  cases form <;>
    simp only [coordinate?, CoordinateForm.readParts, CoordinateForm.size, CoordinateForm.value?,
      nexts, int?, double?, map_bind, bind_map_left, bind_assoc, map_pure, pure_bind]

end Fields

/-! ### Accessors -/

namespace Takes

theorem nexts (count : Nat) : Takes (Fields.nexts count) count := by
  induction count with
  | zero => exact pure []
  | succ count ih =>
    have both := next.bind fun field => ih.bind fun more => pure (field :: more)
    rwa [Nat.add_zero, Nat.add_comm] at both

theorem skip (count : Nat) : Takes (Fields.skip count) count := (nexts count).bind fun _ => pure ()

theorem int? : Takes Fields.int? 1 := next.map intOf

theorem int (default : Int) : Takes (Fields.int default) 1 := int?.map _

theorem long (default : Int) : Takes (Fields.long default) 1 := next.map _

theorem hex (default : Nat) : Takes (Fields.hex default) 1 := next.map _

theorem double? : Takes Fields.double? 1 := next.map doubleOf

theorem double (default : Float) : Takes (Fields.double default) 1 := double?.map _

theorem dateTime? (order : TimeOrder) : Takes (Fields.dateTime? order) 6 := by
  rw [Fields.dateTime?_eq_readParts]
  exact int?.bind fun _ => int?.bind fun _ => int?.bind fun _ => int?.bind fun _ =>
    int?.bind fun _ =>
    int?.bind fun _ => pure _

/-- The parts of a form are as many as its size says. -/
theorem coordinate? (form : CoordinateForm) : Takes (Fields.coordinate? form) form.size := by
  rw [Fields.coordinate?_eq_readParts]
  cases form with
  | degHem => exact double?.bind fun _ => next.bind fun _ => pure _
  | hemDeg => exact next.bind fun _ => double?.bind fun _ => pure _
  | degMinHem => exact int?.bind fun _ => double?.bind fun _ => next.bind fun _ => pure _
  | hemDegMin => exact next.bind fun _ => int?.bind fun _ => double?.bind fun _ => pure _
  | hemDegMinMin =>
    exact next.bind fun _ => int?.bind fun _ => int?.bind fun _ => next.bind fun _ => pure _

end Takes

/-! ### Calls -/

/-- A call of an accessor. -/
inductive Call where
  | next
  | skip (count : Nat)
  | int?
  | int (default : Int)
  | long (default : Int)
  | hex (default : Nat)
  | double?
  | double (default : Float)
  | dateTime? (order : TimeOrder)
  | coordinate? (form : CoordinateForm)

namespace Call

/-- What a call gives. -/
inductive Value where
  | done
  | field (text : Option String)
  | integer (n : Int)
  | integer? (n : Option Int)
  | word (n : Nat)
  | number (x : Float)
  | number? (x : Option Float)
  | instant? (t : Option Instant)

/-- Does what is called. -/
def read : Call → Read Value
  | .next => .field <$> Fields.next
  | .skip count => (fun _ => .done) <$> Fields.skip count
  | .int? => .integer? <$> Fields.int?
  | .int default => .integer <$> Fields.int default
  | .long default => .integer <$> Fields.long default
  | .hex default => .word <$> Fields.hex default
  | .double? => .number? <$> Fields.double?
  | .double default => .number <$> Fields.double default
  | .dateTime? order => .instant? <$> Fields.dateTime? order
  | .coordinate? form => .number? <$> Fields.coordinate? form

/-- The number of fields that a call takes, which the call alone tells. -/
def size : Call → Nat
  | .skip count => count
  | .dateTime? _ => 6
  | .coordinate? form => form.size
  | .next | .int? | .int _ | .long _ | .hex _ | .double? | .double _ => 1

/-- The number of fields that calls take. -/
def sizeAll : List Call → Nat
  | [] => 0
  | call :: rest => call.size + sizeAll rest

/-- Makes one call after the other, up to one that runs over. Beside what each gives stand the
fields that it leaves. -/
def runAll : List Call → Fields → List (Value × Fields) × Option Overrun
  | [], _ => ([], none)
  | call :: rest, fields =>
    match call.read fields with
    | .error overrun => ([], some overrun)
    | .ok (value, after) =>
      let (values, overrun) := runAll rest after
      ((value, after) :: values, overrun)

/-- What the call at an index gives, if it comes to that. -/
def valueAt (calls : List Call) (i : Nat) (fields : Fields) : Option Value :=
  (runAll calls fields).1[i]?.map Prod.fst

theorem takes : (call : Call) → Takes call.read call.size
  | .next => Takes.next.map _
  | .skip count => (Takes.skip count).map _
  | .int? => Takes.int?.map _
  | .int default => (Takes.int default).map _
  | .long default => (Takes.long default).map _
  | .hex default => (Takes.hex default).map _
  | .double? => Takes.double?.map _
  | .double default => (Takes.double default).map _
  | .dateTime? order => (Takes.dateTime? order).map _
  | .coordinate? form => (Takes.coordinate? form).map _

@[simp] theorem sizeAll_nil : sizeAll [] = 0 := rfl

@[simp] theorem sizeAll_cons (call : Call) (rest : List Call) :
    sizeAll (call :: rest) = call.size + sizeAll rest :=
  rfl

/-- Calls run over just if they take more fields than there are. -/
theorem overrun_runAll (calls : List Call) (fields : Fields) :
    (runAll calls fields).2 = if fields.rest.length < sizeAll calls then some ⟨fields.total⟩
      else none := by
  induction calls generalizing fields with
  | nil => rfl
  | cons call rest ih =>
    rcases call.takes.outcome fields with ⟨few, failed⟩ | ⟨enough, value, given, -⟩
    · rw [runAll, failed, sizeAll_cons, if_pos (Nat.lt_of_lt_of_le few (Nat.le_add_right _ _))]
    · have onward := ih (fields.drop call.size)
      have same : fields.rest.length - call.size < sizeAll rest ↔
          fields.rest.length < call.size + sizeAll rest := by
        omega
      simp only [Fields.length_rest_drop, Fields.total_drop, same] at onward
      rw [runAll, given, sizeAll_cons]
      exact onward

/-- The call at an index reads what the calls before it left, and these leave what is behind all
their fields. -/
theorem getElem?_runAll {calls : List Call} {i : Nat} {call : Call} (there : calls[i]? = some call)
    (fields : Fields) :
    (runAll calls fields).1[i]? =
      if sizeAll (calls.take i) ≤ fields.rest.length then
        (call.read (fields.drop (sizeAll (calls.take i)))).toOption
      else none := by
  induction calls generalizing fields i with
  | nil => cases there
  | cons head rest ih =>
    -- a later call has the fields that the first one leaves, and so those before it are counted
    -- from there
    cases i with
    | zero =>
      obtain rfl : head = call := Option.some.inj there
      rw [List.take_zero, sizeAll_nil, if_pos (Nat.zero_le _), Fields.drop_zero, runAll]
      cases head.read fields <;> rfl
    | succ i =>
      rw [List.take_succ_cons, sizeAll_cons]
      rcases head.takes.outcome fields with ⟨few, failed⟩ | ⟨enough, value, given, -⟩
      · rw [runAll, failed, if_neg (by omega)]
        rfl
      · have onward := ih there (fields.drop head.size)
        have same : sizeAll (rest.take i) ≤ fields.rest.length - head.size ↔
            head.size + sizeAll (rest.take i) ≤ fields.rest.length := by
          omega
        simp only [Fields.length_rest_drop, Fields.drop_drop, same] at onward
        rw [runAll, given]
        exact onward

/-- Two runs over as many fields come to the same value of a call if they have the same fields at
its places. -/
theorem valueAt_congr {calls : List Call} {i : Nat} {call : Call} (there : calls[i]? = some call)
    {fields other : Fields} (length : other.rest.length = fields.rest.length)
    (same : ∀ place, sizeAll (calls.take i) ≤ place → place < sizeAll (calls.take i) + call.size →
      other.rest[place]? = fields.rest[place]?) :
    valueAt calls i other = valueAt calls i fields := by
  rw [valueAt, valueAt, getElem?_runAll there, getElem?_runAll there, length]
  split
  · refine call.takes.value_congr fun place inside => ?_
    rw [Fields.drop, Fields.drop, List.getElem?_drop, List.getElem?_drop]
    exact same _ (Nat.le_add_right _ _) (Nat.add_lt_add_left inside _)
  · rfl

/-- The call at an index takes its fields behind those of the calls before it and makes its value
of them alone, if they are all there. -/
theorem value_of_runAll {calls : List Call} {i : Nat} {call : Call}
    (there : calls[i]? = some call) (fields : Fields) :
    if sizeAll (calls.take i) + call.size ≤ fields.rest.length then
      ∃ value, (runAll calls fields).1[i]? =
        some (value, fields.drop (sizeAll (calls.take i) + call.size)) ∧
        call.read (fields.window (sizeAll (calls.take i)) call.size) =
          .ok (value, ⟨[], fields.total⟩)
    else (runAll calls fields).1[i]? = none := by
  rw [getElem?_runAll there]
  by_cases reached : sizeAll (calls.take i) ≤ fields.rest.length
  · have onward := call.takes.outcome (fields.drop (sizeAll (calls.take i)))
    rw [Fields.length_rest_drop, Fields.drop_drop] at onward
    rw [if_pos reached]
    rcases onward with ⟨few, failed⟩ | ⟨enough, value, given, alone⟩
    · rw [failed, if_neg (by omega)]
      rfl
    · rw [given, if_pos (by omega)]
      exact ⟨value, rfl, alone⟩
  · rw [if_neg reached, if_neg (by omega)]

end Call

/-- Calls of accessors, one after the other, over any fields.

They run over just if they take more fields than there are. Each call takes as many as its size
says, which is known before any field is read, right behind those of the calls before it. Its
value is what it makes of these alone, so another text at any other place changes nothing in
it. -/
theorem aligned_of_calls (calls : List Call) (fields : Fields) :
    (Call.runAll calls fields).2 =
        (if fields.rest.length < Call.sizeAll calls then some ⟨fields.total⟩ else none) ∧
      ∀ (i : Nat) (call : Call), calls[i]? = some call →
        let first := Call.sizeAll (calls.take i)
        (if first + call.size ≤ fields.rest.length then
            ∃ value, (Call.runAll calls fields).1[i]? =
              some (value, fields.drop (first + call.size)) ∧
              call.read (fields.window first call.size) = .ok (value, ⟨[], fields.total⟩)
          else (Call.runAll calls fields).1[i]? = none) ∧
        (∀ other : Fields, other.rest.length = fields.rest.length →
          (∀ place, first ≤ place → place < first + call.size →
            other.rest[place]? = fields.rest[place]?) →
            Call.valueAt calls i other = Call.valueAt calls i fields) ∧
        ∀ place field, place < first ∨ first + call.size ≤ place →
          Call.valueAt calls i (fields.set place field) = Call.valueAt calls i fields := by
  refine ⟨Call.overrun_runAll calls fields, fun i call there => ⟨Call.value_of_runAll there fields,
    fun other length same => Call.valueAt_congr there length same, fun place field outside => ?_⟩⟩
  refine Call.valueAt_congr there (List.length_set ..) fun other first last => ?_
  exact List.getElem?_set_ne (by omega)

/-- A date, a number and a coordinate. -/
def sampleCalls : List Call := [.dateTime? .dmyHms, .int 5, .coordinate? .degHem]

/-- Six fields that name no date, a number, and a coordinate without degrees. -/
def sampleGroups : Fields :=
  ⟨[some "32", some "13", some "14", some "25", some "00", some "00", some "7", none, some "N"], 9⟩

/-- Other fields around the same number. -/
def otherGroups : Fields :=
  ⟨[some "x", none, some "", none, none, none, some "7", some "22.5", some "S"], 9⟩

theorem aligned_of_sampleCalls :
    sampleCalls[1]? = some (.int 5) ∧ otherGroups.rest.length = sampleGroups.rest.length ∧
      (∀ place, 6 ≤ place → place < 7 → otherGroups.rest[place]? = sampleGroups.rest[place]?) ∧
      (Call.runAll sampleCalls sampleGroups).2 = none ∧
      Call.valueAt sampleCalls 1 sampleGroups = some (.integer 7) ∧
      Call.valueAt sampleCalls 1 otherGroups = some (.integer 7) ∧
      Call.valueAt sampleCalls 1 (sampleGroups.set 0 (some "22")) = some (.integer 7) := by
  have same : ∀ place, 6 ≤ place → place < 7 →
      otherGroups.rest[place]? = sampleGroups.rest[place]? := by
    intro place first last
    obtain rfl : place = 6 := by omega
    rfl
  have seven : Call.valueAt sampleCalls 1 sampleGroups = some (.integer 7) := rfl
  obtain ⟨overrun, each⟩ := aligned_of_calls sampleCalls sampleGroups
  obtain ⟨-, alike, apart⟩ := each 1 (.int 5) rfl
  exact ⟨rfl, rfl, same, overrun, seven, (alike otherGroups rfl same).trans seven,
    (apart 0 (some "22") (.inl (by decide))).trans seven⟩

end TrackerGateway.Sentence
