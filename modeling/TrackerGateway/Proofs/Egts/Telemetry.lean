import TrackerGateway.Egts.Telemetry
import TrackerGateway.Proofs.Bytes.Numbers

/-!
# What sub-records do to a position

Whether a sub-record can be read has nothing to do with the position it is put into, and of those
that can be read only position data set the time of the fix (`apply_acts`). So a report has a fix
exactly if one of the sub-records it is made of has position data (`isFix_foldl_report`).
-/

namespace TrackerGateway

/-- The years of protocol time are among those that an instant may have. -/
theorem Instant.isSome_ofSeconds? {seconds : Int} (first : 0 ≤ seconds) (last : seconds < 2 ^ 33) :
    (Instant.ofSeconds? seconds).isSome = true := by
  have inSpan : Date.firstYear ≤ (Date.ofDayNumber (seconds / 86400)).year ∧
      (Date.ofDayNumber (seconds / 86400)).year ≤ Date.lastYear := by
    simp only [Date.ofDayNumber, Date.ofDayOfYear, Date.firstYear, Date.lastYear]
    split
    · omega
    · split <;> omega
  simp [Instant.ofSeconds?, inSpan]

namespace Egts.Telemetry

/-- What a way to put something into a position comes to: it cannot be read, whatever the position
is, or it changes every position, and if it `fixes` it makes a fix of it. -/
def Acts (put : Position → Except ProtocolFault Position) (fixes : Bool) : Prop :=
  (∃ fault, ∀ p, put p = .error fault) ∨
    ∃ change : Position → Position,
      (∀ p, put p = .ok (change p)) ∧ ∀ p, (change p).isFix = (p.isFix || fixes)

theorem Acts.bind {α : Type} {x : Except ProtocolFault α}
    {put : α → Position → Except ProtocolFault Position} {fixes : Bool}
    (h : ∀ a, x = .ok a → Acts (put a) fixes) : Acts (fun p => x >>= fun a => put a p) fixes := by
  cases x with
  | error fault => exact .inl ⟨fault, fun _ => rfl⟩
  | ok a => exact h a rfl

theorem Acts.ok {change : Position → Position} {fixes : Bool}
    (h : ∀ p, (change p).isFix = (p.isFix || fixes)) : Acts (fun p => .ok (change p)) fixes :=
  .inr ⟨change, fun _ => rfl, h⟩

theorem positionData_acts (data : Bytes) : Acts (positionData data) true := by
  unfold positionData
  refine Acts.bind fun ⟨time, r⟩ timeRead => ?_
  refine Acts.bind fun ⟨latitude, r⟩ _ => ?_
  refine Acts.bind fun ⟨longitude, r⟩ _ => ?_
  refine Acts.bind fun ⟨flags, r⟩ _ => ?_
  refine Acts.bind fun ⟨speed, r⟩ _ => ?_
  refine Acts.bind fun ⟨course, r⟩ _ => ?_
  refine Acts.bind fun ⟨odometer, r⟩ _ => ?_
  refine Acts.bind fun ⟨input, r⟩ _ => ?_
  refine Acts.bind fun ⟨event, r⟩ _ => ?_
  have fixed : (Instant.ofSeconds? (time + epoch)).isSome = true := by
    have := Reader.lt_of_le timeRead
    apply Instant.isSome_ofSeconds?
    · simp only [epoch]
      omega
    · simp only [epoch]
      omega
  by_cases altitude : Bits.isSet flags 7 = true
  · simp only [altitude, if_true]
    refine Acts.bind fun ⟨height, r⟩ _ => Acts.ok fun p => ?_
    rw [Bool.or_true]
    exact fixed
  · simp only [altitude]
    refine Acts.ok fun p => ?_
    rw [Bool.or_true]
    exact fixed

theorem isFix_foldl {α : Type} {change : Position → α → Position}
    (h : ∀ p a, (change p a).isFix = p.isFix) (found : List α) (p : Position) :
    (found.foldl change p).isFix = p.isFix := by
  induction found generalizing p with
  | nil => rfl
  | cons a found ih => rw [List.foldl_cons, ih, h]

theorem extendedPosition_acts (data : Bytes) : Acts (extendedPosition data) false := by
  unfold extendedPosition
  refine Acts.bind fun ⟨flags, r⟩ _ => ?_
  refine Acts.bind fun ⟨found, r⟩ _ => ?_
  refine Acts.ok fun p => ?_
  rw [isFix_foldl, Bool.or_false]
  intro p f
  split <;> rfl

/-- Inputs are read before they are put anywhere. -/
theorem inputs_acts (group : String) (flags width : Nat) (r : Reader) :
    (∃ fault, ∀ p, inputs group flags width p r = .error fault) ∨
      ∃ (change : Position → Position) (after : Reader),
        (∀ p, inputs group flags width p r = .ok (change p, after)) ∧
          ∀ p, (change p).isFix = p.isFix := by
  unfold inputs
  generalize List.range 8 = places
  induction places generalizing r with
  | nil => exact .inr ⟨id, r, fun _ => rfl, fun _ => rfl⟩
  | cons i places ih =>
    simp only [List.foldlM_cons]
    by_cases announced : Bits.isSet flags i = true
    · cases read : r.le width with
      | error fault =>
        simp only [announced, if_true]
        exact .inl ⟨fault, fun _ => rfl⟩
      | ok pair =>
        obtain ⟨value, rest⟩ := pair
        simp only [announced, if_true]
        rcases ih rest with ⟨fault, fails⟩ | ⟨change, after, succeeds, keeps⟩
        · exact .inl ⟨fault, fun p => fails _⟩
        · exact .inr ⟨fun p => change (p.set _ (.integer value)), after, fun p => succeeds _,
            fun p => keeps _⟩
    · simp only [announced]
      exact ih r

theorem Acts.inputs {group : String} {flags width : Nat} {r : Reader} {fixes : Bool}
    (prepare : Position → Position) {next : Position × Reader → Except ProtocolFault Position}
    (keeps : ∀ p, (prepare p).isFix = p.isFix) (h : ∀ r, Acts (fun p => next (p, r)) fixes) :
    Acts (fun p => inputs group flags width (prepare p) r >>= next) fixes := by
  rcases inputs_acts group flags width r with ⟨fault, fails⟩ | ⟨change, after, succeeds, same⟩
  · refine .inl ⟨fault, fun p => ?_⟩
    show (Telemetry.inputs group flags width (prepare p) r >>= next) = _
    rw [fails]
    rfl
  · have step (p : Position) : (Telemetry.inputs group flags width (prepare p) r >>= next) =
        next (change (prepare p), after) := by
      rw [succeeds]
      rfl
    rcases h after with ⟨fault, fails⟩ | ⟨finish, finishes, isFix⟩
    · exact .inl ⟨fault, fun p => (step p).trans (fails _)⟩
    · refine .inr ⟨fun p => finish (change (prepare p)), fun p => (step p).trans (finishes _), ?_⟩
      intro p
      rw [isFix, same, keeps]

theorem sensors_acts (data : Bytes) : Acts (sensors data) false := by
  unfold sensors
  refine Acts.bind fun ⟨digital, r⟩ _ => ?_
  refine Acts.bind fun ⟨output, r⟩ _ => ?_
  refine Acts.bind fun ⟨analog, r⟩ _ => ?_
  refine Acts.inputs (·.set "output" (.integer output)) (fun _ => rfl) fun r => ?_
  refine Acts.inputs id (fun _ => rfl) fun r => ?_
  exact Acts.ok fun p => (Bool.or_false _).symm

theorem terminalState_acts (data : Bytes) : Acts (terminalState data) false := by
  unfold terminalState
  refine Acts.bind fun ⟨state, r⟩ _ => ?_
  refine Acts.bind fun ⟨power, r⟩ _ => ?_
  refine Acts.bind fun ⟨battery, r⟩ _ => ?_
  exact Acts.ok fun p => (Bool.or_false _).symm

/-- A sub-record cannot be read, or it changes every position; position data make a fix of it. -/
theorem apply_acts (sub : SubRecord) : Acts (apply sub) (sub.kind == SubRecord.positionData) := by
  unfold apply
  by_cases position : sub.kind = SubRecord.positionData
  · simp only [position, if_true, beq_self_eq_true]
    exact positionData_acts sub.data
  · have other : (sub.kind == SubRecord.positionData) = false := by simpa using position
    simp only [position, if_false, other]
    split
    · exact extendedPosition_acts sub.data
    · split
      · exact sensors_acts sub.data
      · split
        · exact terminalState_acts sub.data
        · exact Acts.ok fun p => (Bool.or_false _).symm

end Egts.Telemetry

namespace Egts.SubRecord

/-- Whether the data of a sub-record can be read. -/
def isWellFormed (sub : SubRecord) : Bool :=
  if sub.kind = terminalIdentity then (Terminal.identifiers sub.data).isOk
  else (Telemetry.apply sub (.blank protocolName)).isOk

/-- The identifiers that a sub-record names. -/
def identifiers (sub : SubRecord) : List String :=
  match Terminal.identifiers sub.data with
  | .ok identifiers => identifiers
  | .error _ => []

/-- A position with what a sub-record says about it. -/
def report (p : Position) (sub : SubRecord) : Position :=
  if sub.kind = terminalIdentity then p
  else
    match Telemetry.apply sub p with
    | .ok changed => changed
    | .error _ => p

theorem identifiers_of_wellFormed {sub : SubRecord} (kind : sub.kind = terminalIdentity)
    (h : sub.isWellFormed = true) : Terminal.identifiers sub.data = .ok sub.identifiers := by
  rw [isWellFormed, if_pos kind] at h
  cases read : Terminal.identifiers sub.data with
  | error fault =>
    rw [read] at h
    cases h
  | ok found => rw [identifiers, read]

theorem identifiers_of_malformed {sub : SubRecord} (kind : sub.kind = terminalIdentity)
    (h : sub.isWellFormed = false) : ∃ fault, Terminal.identifiers sub.data = .error fault := by
  rw [isWellFormed, if_pos kind] at h
  cases read : Terminal.identifiers sub.data with
  | error fault => exact ⟨fault, rfl⟩
  | ok found =>
    rw [read] at h
    cases h

theorem apply_of_wellFormed {sub : SubRecord} (kind : sub.kind ≠ terminalIdentity)
    (h : sub.isWellFormed = true) (p : Position) : Telemetry.apply sub p = .ok (report p sub) := by
  rw [isWellFormed, if_neg kind] at h
  rw [report, if_neg kind]
  rcases Telemetry.apply_acts sub with ⟨fault, fails⟩ | ⟨change, succeeds, _⟩
  · rw [fails] at h
    cases h
  · rw [succeeds p]

theorem apply_of_malformed {sub : SubRecord} (kind : sub.kind ≠ terminalIdentity)
    (h : sub.isWellFormed = false) (p : Position) :
    ∃ fault, Telemetry.apply sub p = .error fault := by
  rw [isWellFormed, if_neg kind] at h
  rcases Telemetry.apply_acts sub with ⟨fault, fails⟩ | ⟨change, succeeds, _⟩
  · exact ⟨fault, fails p⟩
  · rw [succeeds] at h
    cases h

theorem isFix_report {sub : SubRecord} (h : sub.isWellFormed = true) (p : Position) :
    (report p sub).isFix = (p.isFix || sub.kind == positionData) := by
  by_cases kind : sub.kind = terminalIdentity
  · rw [report, if_pos kind, kind]
    exact (Bool.or_false _).symm
  · have read := apply_of_wellFormed kind h p
    rcases Telemetry.apply_acts sub with ⟨fault, fails⟩ | ⟨change, succeeds, isFix⟩
    · rw [fails] at read
      cases read
    · rw [succeeds] at read
      injection read with read
      rw [← read, isFix]

/-- A report has a fix if it had one or one of the sub-records has position data. -/
theorem isFix_foldl_report {subs : List SubRecord} (h : subs.all isWellFormed = true)
    (p : Position) :
    (subs.foldl report p).isFix = (p.isFix || subs.any (·.kind == positionData)) := by
  induction subs generalizing p with
  | nil => exact (Bool.or_false _).symm
  | cons sub subs ih =>
    rw [List.all_cons, Bool.and_eq_true] at h
    rw [List.foldl_cons, ih h.2, isFix_report h.1, List.any_cons, Bool.or_assoc]

end Egts.SubRecord
end TrackerGateway
