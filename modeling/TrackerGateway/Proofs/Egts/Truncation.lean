import TrackerGateway.Egts.Telemetry

/-!
# What the contents of a packet can be wrong with

Reading the sub-records of a record, and what they say, fails for one cause only: octets are missing
(`Truncates`). Such a fault is never fatal, so it costs the record and no more.
-/

namespace TrackerGateway

/-- Whether reading fails for no other cause than that octets are missing. -/
def Truncates {α : Type} (read : Except ProtocolFault α) : Prop :=
  ∀ fault, read = .error fault → ∃ needed available, fault = .truncated needed available

namespace Truncates

variable {α β : Type}

theorem ok (a : α) : Truncates (.ok a) := by
  rintro fault ⟨⟩

theorem bind {read : Except ProtocolFault α} {next : α → Except ProtocolFault β}
    (first : Truncates read) (rest : ∀ a, Truncates (next a)) : Truncates (read >>= next) := by
  cases read with
  | error fault =>
    rintro other ⟨⟩
    exact first fault rfl
  | ok a => exact rest a

theorem map {read : Except ProtocolFault α} (change : α → β) (h : Truncates read) :
    Truncates (read.map change) := by
  cases read with
  | error fault =>
    rintro other ⟨⟩
    exact h fault rfl
  | ok a => exact ok _

theorem isFatal_eq_false {read : Except ProtocolFault α} {fault : ProtocolFault}
    (h : Truncates read) (failed : read = .error fault) :
    (Error.protocol fault).isFatal = false := by
  obtain ⟨needed, available, rfl⟩ := h fault failed
  rfl

end Truncates

namespace Reader

theorem truncates_take (r : Reader) (count : Nat) : Truncates (r.take count) := by
  unfold take
  split
  · exact .ok _
  · rintro fault ⟨⟩
    exact ⟨_, _, rfl⟩

theorem truncates_le (r : Reader) (width : Nat) : Truncates (r.le width) :=
  (r.truncates_take width).map _

theorem truncates_signedLe (r : Reader) (width : Nat) : Truncates (r.signedLe width) :=
  (r.truncates_le width).map _

theorem exists_truncated_of_fieldsOnto {flags : Nat} {table : List FlagField}
    {seen : List (FlagField × Bytes)} {r : Reader} {fault : ProtocolFault}
    (h : (fieldsOnto flags table seen r).2.2 = some fault) :
    ∃ needed available, fault = .truncated needed available := by
  induction table generalizing seen r with
  | nil => cases h
  | cons field table ih =>
    rw [fieldsOnto] at h
    by_cases announced : Bits.isSet flags field.bit = true
    · rw [if_pos announced] at h
      cases taken : r.take field.width with
      | ok pair =>
        rw [taken] at h
        exact ih h
      | error cause =>
        rw [taken] at h
        cases h
        exact r.truncates_take field.width _ taken
    · rw [if_neg announced] at h
      exact ih h

theorem truncates_allFields (r : Reader) (flags : Nat) (table : List FlagField) :
    Truncates (r.allFields flags table) := by
  unfold allFields
  split
  · exact .ok _
  · rename_i found after fault read
    rintro other ⟨⟩
    have stopped : (fieldsOnto flags table [] r).2.2 = some fault := by
      rw [← fields, read]
    exact exists_truncated_of_fieldsOnto stopped

end Reader

namespace Egts

namespace SubRecord

theorem truncates_next (r : Reader) : Truncates (next r) := by
  refine (r.truncates_le 1).bind fun ⟨kind, r⟩ => ?_
  refine (r.truncates_le 2).bind fun ⟨length, r⟩ => ?_
  exact (r.truncates_take length).bind fun ⟨data, r⟩ => .ok _

/-- Why the sub-records of a record may end early. -/
theorem isFatal_of_readAll {r : Reader} {fault : ProtocolFault}
    (h : (readAll r).2 = some fault) : (Error.protocol fault).isFatal = false := by
  induction r using readAll.induct with
  | case1 r empty =>
    rw [readAll, if_pos empty] at h
    cases h
  | case2 r more sub after found _ _ _ _ ih =>
    rw [readAll, if_neg more] at h
    split at h
    · rename_i sub' after' found'
      rw [found] at found'
      cases found'
      exact ih h
    · rename_i cause failed
      rw [found] at failed
      cases failed
  | case3 r more cause failed =>
    rw [readAll, if_neg more] at h
    split at h
    · rename_i sub' after' found'
      rw [failed] at found'
      cases found'
    · rename_i cause' failed'
      cases h
      exact (truncates_next r).isFatal_eq_false failed'

end SubRecord

theorem Terminal.truncates_identifiers (data : Bytes) : Truncates (identifiers data) := by
  refine ((Reader.ofBytes data).truncates_le 4).bind fun ⟨objectId, r⟩ => ?_
  refine (r.truncates_le 1).bind fun ⟨flags, r⟩ => ?_
  exact (r.truncates_allFields flags fields).bind fun ⟨found, r⟩ => .ok _

namespace Telemetry

theorem truncates_positionData (data : Bytes) (p : Position) : Truncates (positionData data p) := by
  refine ((Reader.ofBytes data).truncates_le 4).bind fun ⟨time, r⟩ => ?_
  refine (r.truncates_le 4).bind fun ⟨latitude, r⟩ => ?_
  refine (r.truncates_le 4).bind fun ⟨longitude, r⟩ => ?_
  refine (r.truncates_le 1).bind fun ⟨flags, r⟩ => ?_
  refine (r.truncates_le 2).bind fun ⟨speed, r⟩ => ?_
  refine (r.truncates_le 1).bind fun ⟨course, r⟩ => ?_
  refine (r.truncates_le 3).bind fun ⟨odometer, r⟩ => ?_
  refine (r.truncates_le 1).bind fun ⟨input, r⟩ => ?_
  refine (r.truncates_le 1).bind fun ⟨event, r⟩ => ?_
  dsimp only
  split
  · exact (r.truncates_signedLe 3).bind fun ⟨altitude, r⟩ => .ok _
  · exact .ok _

theorem truncates_extendedPosition (data : Bytes) (p : Position) :
    Truncates (extendedPosition data p) := by
  refine ((Reader.ofBytes data).truncates_le 1).bind fun ⟨flags, r⟩ => ?_
  exact (r.truncates_allFields flags _).bind fun ⟨found, r⟩ => .ok _

theorem truncates_inputs (group : String) (flags width : Nat) (p : Position) (r : Reader) :
    Truncates (inputs group flags width p r) := by
  unfold inputs
  generalize List.range 8 = places
  induction places generalizing p r with
  | nil => exact .ok _
  | cons i places ih =>
    rw [List.foldlM_cons]
    refine Truncates.bind ?_ fun ⟨p, r⟩ => ih p r
    dsimp only
    split
    · exact (r.truncates_le width).map _
    · exact .ok _

theorem truncates_sensors (data : Bytes) (p : Position) : Truncates (sensors data p) := by
  refine ((Reader.ofBytes data).truncates_le 1).bind fun ⟨digital, r⟩ => ?_
  refine (r.truncates_le 1).bind fun ⟨output, r⟩ => ?_
  refine (r.truncates_le 1).bind fun ⟨analog, r⟩ => ?_
  refine (truncates_inputs "di" digital 1 _ r).bind fun ⟨p, r⟩ => ?_
  exact (truncates_inputs "adc" analog 3 p r).bind fun ⟨p, r⟩ => .ok _

theorem truncates_terminalState (data : Bytes) (p : Position) :
    Truncates (terminalState data p) := by
  refine ((Reader.ofBytes data).truncates_le 1).bind fun ⟨state, r⟩ => ?_
  refine (r.truncates_le 1).bind fun ⟨power, r⟩ => ?_
  exact (r.truncates_le 1).bind fun ⟨battery, r⟩ => .ok _

theorem truncates_apply (sub : SubRecord) (p : Position) : Truncates (apply sub p) := by
  unfold apply
  split
  · exact truncates_positionData sub.data p
  · split
    · exact truncates_extendedPosition sub.data p
    · split
      · exact truncates_sensors sub.data p
      · split
        · exact truncates_terminalState sub.data p
        · exact .ok p

end Telemetry
end Egts
end TrackerGateway
