import Mathlib.Algebra.Order.Ring.Nat
import Mathlib.Data.List.Nodup
import TrackerGateway.Config
import TrackerGateway.Proofs.Session.Identities

/-!
# The numbers that the built-in directory gives

A directory has its devices apart (`DeviceList.Apart`) when no two identifiers have one number, no
number is zero and none is above the last one given. Settings that are valid build such a
directory, and a look-up keeps it as long as a number is left to give. No number is taken back
(`number?_after`), so what was answered in a run is what the directory holds at its end
(`answer_of_mem_transcript`).
-/

namespace TrackerGateway

/-- What a directory is asked, one identifier after the other, and what it answers. -/
def Directory.transcript {δ : Type} [Directory δ] (directory : δ) :
    List String → List (String × Lookup)
  | [] => []
  | uniqueId :: rest =>
    (uniqueId, (lookup directory uniqueId).1) :: transcript (lookup directory uniqueId).2 rest

namespace DeviceList

/-- The number that an identifier has. -/
def number? (list : DeviceList) (uniqueId : String) : Option DeviceId :=
  Table.get? list.devices uniqueId

/-- Whether no two identifiers have one number, and each number is between zero and the last one. -/
structure Apart (list : DeviceList) : Prop where
  injective : ∀ uniqueId other id, list.number? uniqueId = some id → list.number? other = some id →
    uniqueId = other
  isSet : ∀ uniqueId id, list.number? uniqueId = some id → id ≠ .unset
  le_lastId : ∀ uniqueId id, list.number? uniqueId = some id → id.value ≤ list.lastId

variable {list : DeviceList} {uniqueId : String} {id : DeviceId}

/-! ### Adding devices -/

theorem number?_insert (list : DeviceList) (uniqueId other : String) (id : DeviceId) :
    (list.insert uniqueId id).number? other = if uniqueId = other then some id
      else list.number? other :=
  Table.get?_put _ _ _ _

/-- Devices under new identifiers are added to those that there are. -/
theorem number?_foldl_insert {devices : List (String × DeviceId)}
    (distinct : (devices.map (·.1)).Nodup) (new : ∀ d ∈ devices, list.number? d.1 = none) :
    (devices.foldl (fun list d => list.insert d.1 d.2) list).number? uniqueId = some id ↔
      list.number? uniqueId = some id ∨ (uniqueId, id) ∈ devices := by
  induction devices generalizing list with
  | nil => simp
  | cons d rest ih =>
    obtain ⟨unlike, distinct⟩ := List.nodup_cons.1 distinct
    have later : ∀ e ∈ rest, (list.insert d.1 d.2).number? e.1 = none := by
      intro e mem
      have other : d.1 ≠ e.1 := fun same => unlike (List.mem_map.2 ⟨e, mem, same.symm⟩)
      rw [number?_insert, if_neg other]
      exact new e (List.mem_cons_of_mem _ mem)
    rw [List.foldl_cons, ih distinct later, number?_insert, List.mem_cons, ← or_assoc]
    by_cases same : d.1 = uniqueId
    · have absent := new d List.mem_cons_self
      subst same
      simp [absent, Prod.ext_iff, eq_comm]
    · simp [same, Prod.ext_iff, eq_comm]

theorem lastId_foldl_insert (devices : List (String × DeviceId)) (bound : UInt64) :
    (devices.foldl (fun list d => list.insert d.1 d.2) list).lastId ≤ bound ↔
      list.lastId ≤ bound ∧ ∀ d ∈ devices, d.2.value ≤ bound := by
  induction devices generalizing list with
  | nil => simp
  | cons d rest ih =>
    rw [List.foldl_cons, ih]
    simp only [insert, List.forall_mem_cons]
    rw [← and_assoc]
    refine and_congr_left fun _ => ?_
    show (if list.lastId ≤ d.2.value then d.2.value else list.lastId) ≤ bound ↔ _
    split <;> simp only [UInt64.le_iff_toNat_le] at * <;> omega

theorem number?_ofList {devices : List (String × DeviceId)} (registersUnknown : Bool)
    (distinct : (devices.map (·.1)).Nodup) :
    (ofList registersUnknown devices).number? uniqueId = some id ↔ (uniqueId, id) ∈ devices := by
  rw [ofList, number?_foldl_insert distinct fun _ _ => rfl]
  simp [number?, empty, Table.get?]

theorem registersUnknown_ofList (registersUnknown : Bool) (devices : List (String × DeviceId)) :
    (ofList registersUnknown devices).registersUnknown = registersUnknown := by
  have kept (list : DeviceList) :
      (devices.foldl (fun list d => list.insert d.1 d.2) list).registersUnknown =
          list.registersUnknown := by
    induction devices generalizing list with
    | nil => rfl
    | cons d rest ih => exact ih _
  exact kept _

/-- A directory of different devices has them apart. -/
theorem apart_ofList {devices : List (String × DeviceId)} (registersUnknown : Bool)
    (distinct : (devices.map (·.1)).Nodup) (separate : (devices.map (·.2)).Nodup)
    (set : ∀ d ∈ devices, d.2 ≠ .unset) : (ofList registersUnknown devices).Apart where
  injective uniqueId other id known same := by
    rw [number?_ofList _ distinct] at known same
    exact congrArg Prod.fst (List.inj_on_of_nodup_map separate known same rfl)
  isSet uniqueId id known := set _ ((number?_ofList _ distinct).1 known)
  le_lastId uniqueId id known :=
    ((lastId_foldl_insert devices _).1 (UInt64.le_refl _)).2 _ ((number?_ofList _ distinct).1 known)

/-! ### One look-up -/

/-- What a directory says of an identifier is what it holds of it afterwards. -/
theorem answer_lookup (list : DeviceList) (uniqueId : String) :
    (list.lookup uniqueId).1 =
        (((list.lookup uniqueId).2.number? uniqueId).elim .unknown .known) := by
  unfold lookup
  split
  · rename_i known
    simp [number?, known]
  · rename_i new
    split
    · simp [number?, Table.get?_put]
    · simp [number?, new]

theorem registersUnknown_lookup (list : DeviceList) (uniqueId : String) :
    (list.lookup uniqueId).2.registersUnknown = list.registersUnknown := by
  unfold lookup
  split
  · rfl
  · split <;> rfl

/-- A look-up changes nothing, or it gives a new identifier the number after the last. -/
theorem lookup_cases (list : DeviceList) (uniqueId : String) :
    (list.lookup uniqueId).2 = list ∨
      (list.registersUnknown = true ∧ list.number? uniqueId = none ∧
        (list.lookup uniqueId).2 =
          { list with
            devices := Table.put list.devices uniqueId ⟨list.lastId + 1⟩, lastId :=
              list.lastId + 1 }) := by
  unfold lookup number?
  split
  · exact .inl rfl
  · rename_i new
    split
    · rename_i registers
      exact .inr ⟨registers, new, rfl⟩
    · exact .inl rfl

/-- A directory that registers what it does not know has a number for all it was asked for. -/
theorem isSome_number?_lookup (registers : list.registersUnknown = true) (uniqueId : String) :
    ((list.lookup uniqueId).2.number? uniqueId).isSome = true := by
  unfold lookup number?
  split
  · rename_i known
    simp [known]
  · simp [registers, Table.get?_put]

/-- No number is taken back. -/
theorem number?_lookup (known : list.number? uniqueId = some id) (asked : String) :
    (list.lookup asked).2.number? uniqueId = some id := by
  rcases lookup_cases list asked with same | ⟨-, new, grown⟩
  · rw [same, known]
  · have other : asked ≠ uniqueId := by
      rintro rfl
      simp [known] at new
    rw [grown]
    simp only [number?, Table.get?_put, if_neg other]
    exact known

theorem lastId_lookup_le (list : DeviceList) (uniqueId : String) :
    (list.lookup uniqueId).2.lastId.toNat ≤ list.lastId.toNat + 1 := by
  rcases lookup_cases list uniqueId with same | ⟨-, -, grown⟩
  · rw [same]
    exact Nat.le_succ _
  · rw [grown]
    simp only [UInt64.toNat_add, UInt64.toNat_one]
    exact Nat.mod_le _ _

/-- The number after the last is one that no identifier has. -/
theorem Apart.lookup (apart : list.Apart) (room : list.lastId.toNat + 1 < 2 ^ 64) (asked : String) :
    (list.lookup asked).2.Apart := by
  rcases lookup_cases list asked with same | ⟨-, new, grown⟩
  · rw [same]
    exact apart
  have next : (list.lastId + 1).toNat = list.lastId.toNat + 1 := by
    rw [UInt64.toNat_add, UInt64.toNat_one, Nat.mod_eq_of_lt room]
  have number (uniqueId : String) : (list.lookup asked).2.number? uniqueId =
      if asked = uniqueId then some ⟨list.lastId + 1⟩ else list.number? uniqueId := by
    rw [grown]
    exact Table.get?_put _ _ _ _
  have below (uniqueId : String) (id : DeviceId) (known : list.number? uniqueId = some id) :
      id.value.toNat < (list.lastId + 1).toNat := by
    have := UInt64.le_iff_toNat_le.1 (apart.le_lastId uniqueId id known)
    omega
  constructor
  · intro uniqueId other id known same
    rw [number] at known same
    split at known <;> split at same
    · simp_all
    · cases known
      exact absurd (below other _ same) (Nat.lt_irrefl _)
    · cases same
      exact absurd (below uniqueId _ known) (Nat.lt_irrefl _)
    · exact apart.injective uniqueId other id known same
  · intro uniqueId id known
    rw [number] at known
    split at known
    · cases known
      intro zero
      have := congrArg (fun id : DeviceId => id.value.toNat) zero
      simp only [next, DeviceId.unset, UInt64.toNat_zero] at this
      omega
    · exact apart.isSet uniqueId id known
  · intro uniqueId id known
    rw [number] at known
    rw [UInt64.le_iff_toNat_le, grown]
    split at known
    · cases known
      exact Nat.le_refl _
    · exact Nat.le_of_lt (below uniqueId id known)

/-! ### A run of look-ups -/

open Directory (after transcript)

theorem number?_after (known : list.number? uniqueId = some id) (asked : List String) :
    (after list asked).number? uniqueId = some id := by
  induction asked generalizing list with
  | nil => exact known
  | cons other rest ih => exact ih (number?_lookup known other)

/-- Without registration a directory stays as it is. -/
theorem after_of_not_registersUnknown (closed : list.registersUnknown = false)
    (asked : List String) : after list asked = list := by
  induction asked with
  | nil => rfl
  | cons uniqueId rest ih =>
    have same : (list.lookup uniqueId).2 = list := by
      rcases lookup_cases list uniqueId with same | ⟨registers, -⟩
      · exact same
      · simp [closed] at registers
    show after (list.lookup uniqueId).2 rest = list
    rw [same, ih]

/-- A directory keeps its devices apart through a run for which it has numbers enough. -/
theorem Apart.after (apart : list.Apart) {asked : List String}
    (room : list.lastId.toNat + asked.length < 2 ^ 64) : (Directory.after list asked).Apart := by
  induction asked generalizing list with
  | nil => exact apart
  | cons uniqueId rest ih =>
    rw [List.length_cons] at room
    have grown := lastId_lookup_le list uniqueId
    exact ih (apart.lookup (by omega) uniqueId) (by
      show (list.lookup uniqueId).2.lastId.toNat + rest.length < 2 ^ 64
      omega)

/-- What was answered in a run is what the directory holds when it ends. -/
theorem answer_of_mem_transcript {answer : Lookup} {asked : List String}
    (answered : (uniqueId, answer) ∈ transcript list asked) :
    answer = ((after list asked).number? uniqueId).elim .unknown .known := by
  induction asked generalizing list with
  | nil => cases answered
  | cons other rest ih =>
    rcases List.mem_cons.1 answered with first | later
    · obtain ⟨rfl, rfl⟩ := Prod.mk.inj first
      rw [show (Directory.lookup list uniqueId).1 = (list.lookup uniqueId).1 from rfl,
        answer_lookup]
      show _ = ((after (list.lookup uniqueId).2 rest).number? uniqueId).elim Lookup.unknown
        Lookup.known
      cases known : (list.lookup uniqueId).2.number? uniqueId with
      | some id => rw [number?_after known]
      | none =>
        have closed : (list.lookup uniqueId).2.registersUnknown = false := by
          rw [registersUnknown_lookup, ← Bool.not_eq_true]
          intro registers
          simpa [known] using isSome_number?_lookup registers uniqueId
        rw [after_of_not_registersUnknown closed, known]
    · exact ih later

theorem number?_of_mem_transcript {asked : List String}
    (answered : (uniqueId, .known id) ∈ transcript list asked) :
    (after list asked).number? uniqueId = some id := by
  have held := answer_of_mem_transcript answered
  cases known : (after list asked).number? uniqueId with
  | none => simp [known] at held
  | some other => simpa [known] using held.symm

/-- A directory that registers what it does not know answers every inquiry with a number. -/
theorem known_of_mem_transcript (registers : list.registersUnknown = true) {answer : Lookup}
    {asked : List String} (answered : (uniqueId, answer) ∈ transcript list asked) :
    ∃ id, answer = .known id := by
  induction asked generalizing list with
  | nil => cases answered
  | cons other rest ih =>
    rcases List.mem_cons.1 answered with first | later
    · obtain ⟨rfl, rfl⟩ := Prod.mk.inj first
      obtain ⟨id, known⟩ := Option.isSome_iff_exists.1 (isSome_number?_lookup registers uniqueId)
      exact ⟨id, by
        rw [show (Directory.lookup list uniqueId).1 = (list.lookup uniqueId).1 from rfl,
          answer_lookup, known]
        rfl⟩
    · exact ih ((registersUnknown_lookup list other).trans registers) later

end DeviceList

namespace Config

/-! ### Valid settings -/

/-- Devices have no fault exactly if their numbers are not zero, and if numbers and identifiers are
different and none is taken. -/
theorem deviceFault?_eq_none_iff {ids : List Nat} {uniqueIds : List String}
    {devices : List DeviceEntry} :
    deviceFault? ids uniqueIds devices = none ↔
      (∀ d ∈ devices, d.id ≠ 0 ∧ d.id ∉ ids ∧ d.uniqueId ∉ uniqueIds) ∧
        (devices.map (·.id)).Nodup ∧ (devices.map (·.uniqueId)).Nodup := by
  induction devices generalizing ids uniqueIds with
  | nil => simp [deviceFault?]
  | cons d rest ih =>
    rw [deviceFault?]
    split
    · simp_all
    split
    · simp_all
    split
    · simp_all
    rw [ih]
    simp only [List.mem_cons, not_or, List.map_cons, List.nodup_cons, List.mem_map]
    grind

theorem deviceFault?_of_validate {c : Config} (valid : c.validate = .ok ()) :
    deviceFault? [] [] c.devices = none := by
  unfold validate fault? at valid
  cases fault : deviceFault? [] [] c.devices with
  | none => rfl
  | some reason =>
    rw [fault] at valid
    split at valid
    · cases valid
    · rename_i none
      split at none <;> cases none

variable {c : Config} (valid : c.validate = .ok ()) (representable : ∀ d ∈ c.devices, d.id < 2 ^ 63)

include valid in
/-- The built-in directory holds the devices of valid settings and no others. -/
theorem number?_directory {uniqueId : String} {id : DeviceId} :
    c.directory.number? uniqueId = some id ↔
      ∃ d ∈ c.devices, d.uniqueId = uniqueId ∧ ⟨UInt64.ofNat d.id⟩ = id := by
  have distinct := (deviceFault?_eq_none_iff.1 (deviceFault?_of_validate valid)).2.2
  rw [directory, DeviceList.number?_ofList]
  · simp
  · rwa [List.map_map]

include representable in
theorem toNat_ofNat_id {d : DeviceEntry} (mem : d ∈ c.devices) : (UInt64.ofNat d.id).toNat = d.id :=
  UInt64.toNat_ofNat_of_lt' (Nat.lt_trans (representable d mem) (by decide))

include representable in
theorem lastId_directory_lt : c.directory.lastId.toNat < 2 ^ 63 := by
  have below : c.directory.lastId ≤ UInt64.ofNat (2 ^ 63 - 1) := by
    refine (DeviceList.lastId_foldl_insert _ _).2 ⟨UInt64.zero_le, fun entry mem => ?_⟩
    obtain ⟨d, listed, rfl⟩ := List.mem_map.1 mem
    rw [UInt64.le_iff_toNat_le, toNat_ofNat_id representable listed]
    exact Nat.le_pred_of_lt (representable d listed)
  have := UInt64.le_iff_toNat_le.1 below
  exact Nat.lt_of_le_of_lt this (by decide)

include valid representable in
theorem apart_directory : c.directory.Apart := by
  obtain ⟨nonzero, separate, distinct⟩ :=
    deviceFault?_eq_none_iff.1 (deviceFault?_of_validate valid)
  apply DeviceList.apart_ofList
  · rwa [List.map_map]
  · rw [List.map_map]
    refine List.Nodup.map_on ?_ (List.Nodup.of_map _ separate)
    intro d mem e mem' same
    have : d.id = e.id := by
      rw [← toNat_ofNat_id representable mem, ← toNat_ofNat_id representable mem']
      exact congrArg (fun id : DeviceId => id.value.toNat) same
    exact List.inj_on_of_nodup_map separate mem mem' this
  · intro entry mem zero
    obtain ⟨d, listed, rfl⟩ := List.mem_map.1 mem
    have := congrArg (fun id : DeviceId => id.value.toNat) zero
    exact (nonzero d listed).1 ((toNat_ofNat_id representable listed).symm.trans this)

include valid representable in
/-- The directory of valid settings never mistakes a device for another: at every point of a run
it has all devices apart and those of the settings under their own numbers, which is what it
answers for them; any other identifier is unknown, or is given one number for the whole run; and
no number is zero or answered for two identifiers. -/
theorem directory_never_confuses (asked : List String) (few : asked.length < 2 ^ 62) :
    (∀ earlier, earlier <+: asked →
      (Directory.after c.directory earlier).Apart ∧
        ∀ d ∈ c.devices, ∃ id,
          (Directory.after c.directory earlier).number? d.uniqueId = some id ∧
            id.value.toNat = d.id) ∧
      ∀ uniqueId answer, (uniqueId, answer) ∈ Directory.transcript c.directory asked →
        (∀ d ∈ c.devices, d.uniqueId = uniqueId →
          ∃ id, answer = .known id ∧ id.value.toNat = d.id) ∧
          (uniqueId ∉ c.devices.map (·.uniqueId) →
            if c.registerUnknown then
              ∃ id, ∀ again, (uniqueId, again) ∈ Directory.transcript c.directory asked →
                again = .known id
            else answer = .unknown) ∧
          ∀ id, answer = .known id → id ≠ .unset ∧
            ∀ other, (other, .known id) ∈ Directory.transcript c.directory asked →
              other = uniqueId := by
  have apart := apart_directory valid representable
  have last := lastId_directory_lt representable
  have own (earlier : List String) (d : DeviceEntry) (mem : d ∈ c.devices) :
      ∃ id, (Directory.after c.directory earlier).number? d.uniqueId = some id ∧
          id.value.toNat = d.id :=
    ⟨⟨UInt64.ofNat d.id⟩,
      DeviceList.number?_after ((number?_directory valid).2 ⟨d, mem, rfl, rfl⟩) _,
      toNat_ofNat_id representable mem⟩
  have apartAfter (earlier : List String) (start : earlier <+: asked) :
      (Directory.after c.directory earlier).Apart := by
    have := start.length_le
    exact apart.after (by omega)
  refine ⟨fun earlier start => ⟨apartAfter earlier start, own earlier⟩,
    fun uniqueId answer answered => ?_⟩
  have held {uniqueId : String} {answer : Lookup}
      (answered : (uniqueId, answer) ∈ Directory.transcript c.directory asked) :=
    DeviceList.answer_of_mem_transcript answered
  refine ⟨?configured, ?other, ?separate⟩
  case configured =>
    rintro d mem rfl
    obtain ⟨id, known, number⟩ := own asked d mem
    exact ⟨id, by rw [held answered, known]; rfl, number⟩
  case other =>
    intro unlisted
    have registers : c.directory.registersUnknown = c.registerUnknown :=
      DeviceList.registersUnknown_ofList _ _
    split
    · rename_i on
      obtain ⟨id, known⟩ := DeviceList.known_of_mem_transcript (registers.trans on) answered
      exact ⟨id, fun again answeredAgain => by rw [held answeredAgain, ← held answered, known]⟩
    · rename_i off
      rw [held answered, DeviceList.after_of_not_registersUnknown (by simpa [registers] using off)]
      cases known : c.directory.number? uniqueId with
      | none => rfl
      | some id =>
        obtain ⟨d, mem, same, -⟩ := (number?_directory valid).1 known
        exact absurd (List.mem_map.2 ⟨d, mem, same⟩) unlisted
  case separate =>
    rintro id rfl
    have apart := apartAfter asked (List.prefix_refl _)
    have own := DeviceList.number?_of_mem_transcript answered
    exact ⟨apart.isSet _ _ own,
      fun other also => apart.injective _ _ _ (DeviceList.number?_of_mem_transcript also) own⟩

theorem directory_never_confuses_sample :
    let c : Config := { sample with registerUnknown := true }
    let asked := ["999", "8800000015", "998", "999"]
    c.validate = .ok () ∧ (∀ d ∈ c.devices, d.id < 2 ^ 63) ∧ asked.length < 2 ^ 62 ∧
      (Directory.after c.directory asked).Apart ∧
        ∃ id, ∀ again, ("999", again) ∈ Directory.transcript c.directory asked →
            again = .known id := by
  intro c asked
  have valid : c.validate = .ok () := by decide +kernel
  have representable : ∀ d ∈ c.devices, d.id < 2 ^ 63 := by decide
  have few : asked.length < 2 ^ 62 := by decide
  obtain ⟨states, answers⟩ := directory_never_confuses valid representable asked few
  exact ⟨valid, representable, few, (states asked (List.prefix_refl _)).1,
    (answers "999" _ List.mem_cons_self).2.1 (by decide)⟩

end Config
end TrackerGateway
