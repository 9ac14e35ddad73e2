import TrackerGateway.Egts.Telemetry
import TrackerGateway.Proofs.Guarded.Cursor

/-!
# Reading records and what they say by cursor

Records and sub-records are read at a place that moves on, and so are the numbers in them. What is
worked out from these numbers stays in the types that hold it: the seconds since the epoch, the
metres of the odometer, the course and the bits of the flags. No read traps, and each comes to
what the reader's does.
-/

namespace TrackerGateway.Egts.Checked

open Guarded Scan

/-! ### Records -/

/-- Reads a sub-record. -/
def subRecord : Scan SubRecord := do
  let kind ← le 1
  let length ← le 2
  let data ← take length
  pure ⟨kind, data⟩

/-- A field of a table with its number. -/
def numbered (field : Reader.FlagField × Bytes) : Guarded (Reader.FlagField × Nat) := do
  let n ← number field.1.width field.2
  pure (field.1, n)

/-- The number in the field of a bit, if it was there. -/
def numberOf? (bit : Nat) (found : List (Reader.FlagField × Nat)) : Option Nat :=
  (found.find? fun f => f.1.bit == bit).map (·.2)

/-- Reads a record. -/
def record : Scan Record := do
  let length ← le 2
  let number ← le 2
  let flags ← le 1
  let found ← fields flags numbered Record.optionalFields
  let service ← le 1
  let _recipient ← le 1
  let data ← take length
  pure ⟨number, numberOf? 0 found, numberOf? 1 found, numberOf? 2 found, service, data⟩

theorem subRecord_follows : Follows subRecord SubRecord.next := by
  refine (Follows.le 1).bind fun kind => ?_
  refine (Follows.le 2).bind fun length => ?_
  exact (Follows.take length).bind fun data => Follows.pure _

theorem numbered_eq {field : Reader.FlagField} {octets : Bytes}
    (length : octets.length = field.width) :
    numbered (field, octets) = .ok (field, Bytes.le octets) := by
  rw [numbered, number_of_length length]
  rfl

/-- The numbers in the fields of a table are read. -/
theorem numbered_follows (flags : Nat) {table : List Reader.FlagField}
    (bits : ∀ field ∈ table, field.bit < 64) :
    Follows (fields flags numbered table) (fieldsOf flags (fun f => (f.1, Bytes.le f.2)) table) :=
  Follows.fields bits fun _ _ _ length => numbered_eq length

theorem numberOf?_map (bit : Nat) (found : List (Reader.FlagField × Bytes)) :
    numberOf? bit (found.map fun f => (f.1, Bytes.le f.2)) = Record.field? bit found := by
  rw [numberOf?, List.find?_map, Option.map_map]
  rfl

theorem record_follows : Follows record Record.next := by
  refine (Follows.le 2).bind fun length => ?_
  refine (Follows.le 2).bind fun number => ?_
  refine (Follows.le 1).bind fun flags => ?_
  refine Follows.bind_map (numbered_follows flags (by decide)) fun found => ?_
  refine (Follows.le 1).bind fun service => ?_
  refine (Follows.le 1).bind fun recipient => ?_
  refine (Follows.take length).bind fun data => ?_
  simp only [numberOf?_map]
  exact Follows.pure _

/-! ### What sub-records say -/

/-- Reads the identifiers of a terminal. -/
def identifiers : Scan (List String) := do
  let _objectId ← le 4
  let flags ← le 1
  let found ← fields flags pure Terminal.fields
  pure (((found.filter fun f => Terminal.isIdentifier f.1.bit).map
    fun f => Reader.paddedText f.2).filter (! ·.isEmpty))

/-- Reads position, speed, course, odometer and inputs. -/
def positionData (p : Position) : Scan Position := do
  let time ← le 4
  let seconds ← guarded (ranged (.signed 64) (time + Telemetry.epoch))
  let latitude ← le 4
  let longitude ← le 4
  let flags ← le 1
  let valid ← guarded (isSet flags 0)
  let south ← guarded (isSet flags 5)
  let west ← guarded (isSet flags 6)
  let speed ← le 2
  let tenths ← guarded (between speed 0 14)
  let low ← le 1
  let high ← guarded (isSet speed 15)
  let course ← guarded (unsigned 32 (low + if high then 256 else 0))
  let odometer ← le 3
  let metres ← guarded (ranged (.signed 64) (odometer * 100))
  let input ← le 1
  let event ← le 1
  let p := { p with
    fixTime := Instant.ofSeconds? seconds
    valid := valid
    latitude := Telemetry.signed south (Telemetry.degrees 90 latitude)
    longitude := Telemetry.signed west (Telemetry.degrees 180 longitude)
    speed := Units.knotsOfKph (Telemetry.tenths tenths) }
  let p := p.setCourse (Json.floatOfInt (course : Nat))
  let p := p.set "odometer" (.integer metres)
  let p := p.set "input" (.integer input)
  let p := p.set "event" (.integer event)
  if ← guarded (isSet flags 7) then
    let altitude ← signedLe 3
    pure { p with altitude := Json.floatOfInt altitude }
  else pure p

/-- Reads precision and satellites. -/
def extendedPosition (p : Position) : Scan Position := do
  let flags ← le 1
  let found ← fields flags numbered (Telemetry.precisionFields.map (·.1))
  pure (found.foldl (fun p f =>
    match Telemetry.precisionFields.lookup f.1 with
    | some name => p.set name (.integer f.2)
    | none => p) p)

/-- Reads the inputs of which a bit is set. -/
def inputs (group : String) (flags width : Nat) : List Nat → Position → Scan Position
  | [], p => pure p
  | i :: places, p => do
    if ← guarded (isSet flags i) then
      let number ← guarded (unsigned 32 (i + 1))
      let value ← le width
      inputs group flags width places (p.set s!"{group}{number}" (.integer value))
    else inputs group flags width places p

/-- Reads digital inputs, outputs and analog inputs. -/
def sensors (p : Position) : Scan Position := do
  let digital ← le 1
  let output ← le 1
  let analog ← le 1
  let p ← inputs "di" digital 1 (List.range 8) (p.set "output" (.integer output))
  inputs "adc" analog 3 (List.range 8) p

/-- Reads the voltages of supply and battery. -/
def terminalState (p : Position) : Scan Position := do
  let _state ← le 1
  let power ← le 1
  let battery ← le 1
  pure ((p.set "power" (.double (Telemetry.tenths power))).set "battery"
    (.double (Telemetry.tenths battery)))

/-- Puts what a sub-record says into a position. -/
def apply (sub : SubRecord) (p : Position) : Guarded (Except ProtocolFault Position) :=
  if sub.kind = SubRecord.positionData then (positionData p).run sub.data
  else if sub.kind = SubRecord.extendedPosition then (extendedPosition p).run sub.data
  else if sub.kind = SubRecord.sensors then (sensors p).run sub.data
  else if sub.kind = SubRecord.terminalState then (terminalState p).run sub.data
  else pure (.ok p)

variable {data : Bytes}

/-- A number that is not negative is held in 64 bits with a sign below half of what they hold
without. -/
theorem ranged_of_lt {n : Int} (positive : 0 ≤ n) (small : n < 2 ^ 63) :
    ranged (.signed 64) n = .ok n := by
  apply ranged_of_holds
  have least : (Text.Integer.Range.signed 64).least = -2 ^ 63 := rfl
  have greatest : (Text.Integer.Range.signed 64).greatest = 2 ^ 63 - 1 := rfl
  rw [Text.Integer.Range.holds, least, greatest, Bool.and_eq_true, decide_eq_true_eq,
    decide_eq_true_eq]
  omega

theorem identifiers_eq (held : data.length < 2 ^ 63) :
    identifiers.run data = .ok (Terminal.identifiers data) := by
  apply Yields.run_eq
  refine Yields.le (Cursor.sound_start held) fun objectId c sound _ => ?_
  refine Yields.le sound fun flags c sound _ => ?_
  have read : Follows (fields flags pure Terminal.fields) (·.allFields flags Terminal.fields) := by
    rw [← fieldsOf_id]
    exact Follows.fields (by decide) fun _ _ _ _ => rfl
  exact Yields.bind read sound fun found next _ _ => Yields.pure _

theorem positionData_eq (held : data.length < 2 ^ 63) (p : Position) :
    (positionData p).run data = .ok (Telemetry.positionData data p) := by
  apply Yields.run_eq
  refine Yields.le (Cursor.sound_start held) fun time c sound early => ?_
  refine Yields.guarded (ranged_of_lt ?_ ?_) ?_
  · rw [Telemetry.epoch]
    omega
  · rw [Telemetry.epoch]
    omega
  refine Yields.le sound fun latitude c sound _ => ?_
  refine Yields.le sound fun longitude c sound _ => ?_
  refine Yields.le sound fun flags c sound _ => ?_
  refine Yields.guarded (isSet_of_lt (by decide)) ?_
  refine Yields.guarded (isSet_of_lt (by decide)) ?_
  refine Yields.guarded (isSet_of_lt (by decide)) ?_
  refine Yields.le sound fun speed c sound _ => ?_
  refine Yields.guarded (between_of_lt (by decide) (by decide)) ?_
  refine Yields.le sound fun low c sound octet => ?_
  refine Yields.guarded (isSet_of_lt (by decide)) ?_
  refine Yields.guarded (unsigned_of_lt ?_) ?_
  · split <;> omega
  refine Yields.le sound fun odometer c sound short => ?_
  refine Yields.guarded (ranged_of_lt ?_ ?_) ?_
  · omega
  · omega
  refine Yields.le sound fun input c sound _ => ?_
  refine Yields.le sound fun event c sound _ => ?_
  refine Yields.guarded (isSet_of_lt (by decide)) ?_
  dsimp only
  cases Bits.isSet flags 7 with
  | true => exact Yields.bind (Follows.signedLe 3) sound fun altitude next _ _ => Yields.pure _
  | false => exact Yields.pure _

theorem extendedPosition_eq (held : data.length < 2 ^ 63) (p : Position) :
    (extendedPosition p).run data = .ok (Telemetry.extendedPosition data p) := by
  apply Yields.run_eq
  refine Yields.le (Cursor.sound_start held) fun flags c sound _ => ?_
  refine Yields.bind_map (numbered_follows flags (by decide)) sound fun found next => ?_
  dsimp only
  rw [List.foldl_map]
  exact Yields.pure _

theorem inputs_follows (group : String) {flags width : Nat} {places : List Nat}
    (near : ∀ i ∈ places, i < 8) (p : Position) :
    Follows (inputs group flags width places p) fun r =>
      places.foldlM (fun (p, r) i =>
        if Bits.isSet flags i then
          (r.le width).map fun (value, r) => (p.set s!"{group}{i + 1}" (.integer value), r)
        else .ok (p, r)) (p, r) := by
  induction places generalizing p with
  | nil => exact Follows.pure p
  | cons i places ih =>
    have here := near i List.mem_cons_self
    have rest := ih fun j member => near j (List.mem_cons_of_mem _ member)
    rw [inputs]
    refine Follows.guarded_bind (isSet_of_lt (by omega)) ?_
    simp only [List.foldlM_cons]
    cases announced : Bits.isSet flags i with
    | false => exact rest p
    | true =>
      refine Follows.guarded_bind (unsigned_of_lt (by omega)) ?_
      simp only [if_pos, map_eq_bind, bind_assoc]
      exact (Follows.le width).bind fun value => rest _

theorem sensors_eq (held : data.length < 2 ^ 63) (p : Position) :
    (sensors p).run data = .ok (Telemetry.sensors data p) := by
  have near : ∀ i ∈ List.range 8, i < 8 := fun i => List.mem_range.1
  apply Yields.run_eq
  refine Yields.le (Cursor.sound_start held) fun digital c sound _ => ?_
  refine Yields.le sound fun output c sound _ => ?_
  refine Yields.le sound fun analog c sound _ => ?_
  refine Yields.bind (inputs_follows "di" near _) sound fun p c sound _ => ?_
  exact Yields.drop (inputs_follows "adc" near p) sound

theorem terminalState_eq (held : data.length < 2 ^ 63) (p : Position) :
    (terminalState p).run data = .ok (Telemetry.terminalState data p) := by
  apply Yields.run_eq
  refine Yields.le (Cursor.sound_start held) fun state c sound _ => ?_
  refine Yields.le sound fun power c sound _ => ?_
  exact Yields.le sound fun battery c sound _ => Yields.pure _

/-- Nothing that a sub-record says is read from outside of it, or outgrows its type. -/
theorem apply_eq {sub : SubRecord} (held : sub.data.length < 2 ^ 63) (p : Position) :
    apply sub p = .ok (Telemetry.apply sub p) := by
  unfold apply Telemetry.apply
  split
  · exact positionData_eq held p
  · split
    · exact extendedPosition_eq held p
    · split
      · exact sensors_eq held p
      · split
        · exact terminalState_eq held p
        · rfl

end TrackerGateway.Egts.Checked
