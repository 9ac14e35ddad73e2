import TrackerGateway.Media
import TrackerGateway.Proofs.Text.Fronts
import TrackerGateway.Proofs.Text.Integers

/-!
# What a library keeps in memory

A reference ends in the number of what was stored and an extension. An identifier may look like
anything, also like a reference, but the last slash is the library's own where extensions have
none, and the number is found behind it (`number_inj`). So a new reference is not among the old
ones, as long as the numbers do not start again, and everything stored stays as it is
(`kept_of_storeAll`).
-/

namespace TrackerGateway

theorem reverse_append_cons {α : Type} (front : List α) (stop : α) (rest : List α) :
    (front ++ stop :: rest).reverse = rest.reverse ++ stop :: front.reverse := by
  simp

namespace MediaLibrary

/-! ### References -/

/-- Whether a text may end a reference. -/
def Plain (extension : String) : Prop := '/' ∉ extension.toList

theorem toList_reference (uniqueId : String) (number : UInt64) (extension : String) :
    (reference uniqueId number extension).toList =
      uniqueId.toList ++ '/' :: (Nat.toDigits 10 number.toNat ++ '.' :: extension.toList) := by
  simp [reference, String.toList_append, toString]

theorem notMem_toDigits {c : Char} (other : (Text.Integer.digit? 10 c).isSome = false) (n : Nat) :
    c ∉ Nat.toDigits 10 n := by
  intro member
  rw [(Text.Integer.valueAfter_toDigits n).1 c member] at other
  cases other

/-- The number can be told from a reference, whatever the identifier looks like. -/
theorem number_inj {uniqueId uniqueId' extension extension' : String} {number number' : UInt64}
    (plain : Plain extension) (plain' : Plain extension')
    (same : reference uniqueId number extension = reference uniqueId' number' extension') :
    number = number' := by
  have slashless {extension : String} (plain : Plain extension) (number : UInt64) :
      '/' ∉ (Nat.toDigits 10 number.toNat ++ '.' :: extension.toList).reverse := by
    simp only [List.mem_reverse, List.mem_append, List.mem_cons, not_or]
    exact ⟨notMem_toDigits rfl _, by decide, plain⟩
  have backwards := congrArg (fun text => text.toList.reverse) same
  simp only [toList_reference, reverse_append_cons uniqueId.toList,
    reverse_append_cons uniqueId'.toList] at backwards
  -- Backwards, what stands behind the last slash comes first.
  have behind := List.reverse_injective
    (Text.append_cons_inj_of_notMem (slashless plain number) (slashless plain' number') backwards).1
  have digits :=
    (Text.append_cons_inj_of_notMem (notMem_toDigits rfl _) (notMem_toDigits rfl _) behind).1
  refine UInt64.toNat_inj.1 ?_
  rw [← (Text.Integer.valueAfter_toDigits number.toNat).2, digits,
    (Text.Integer.valueAfter_toDigits number'.toNat).2]

/-! ### Storing once -/

/-- Whether every file has a reference with one of the numbers given out. -/
def Numbered (library : MediaLibrary) : Prop :=
  ∀ key ∈ Table.keys library.files, ∃ uniqueId number extension,
    Plain extension ∧ number ≤ library.stored ∧ key = reference uniqueId number extension

variable {library : MediaLibrary} {extension : String}

theorem numbered_empty : Numbered empty := by
  intro key member
  cases member

theorem toNat_stored_add_one (room : library.stored.toNat + 1 < 2 ^ 64) :
    (library.stored + 1).toNat = library.stored.toNat + 1 := by
  rw [UInt64.toNat_add]
  exact Nat.mod_eq_of_lt room

/-- A reference is new as long as there are new numbers. -/
theorem store_notMem_keys (numbered : library.Numbered) (room : library.stored.toNat + 1 < 2 ^ 64)
    (uniqueId : String) (data : Bytes) (plain : Plain extension) :
    (library.store uniqueId data extension).1 ∉ Table.keys library.files := by
  intro member
  obtain ⟨uniqueId', number, extension', plain', given, same⟩ := numbered _ member
  have number := number_inj plain plain' same
  rw [← number, UInt64.le_iff_toNat_le, toNat_stored_add_one room] at given
  omega

theorem keys_store (numbered : library.Numbered) (room : library.stored.toNat + 1 < 2 ^ 64)
    (uniqueId : String) (data : Bytes) (plain : Plain extension) :
    Table.keys (library.store uniqueId data extension).2.files =
      Table.keys library.files ++ [(library.store uniqueId data extension).1] := by
  refine (Table.keys_put _ _ _).trans (if_neg ?_)
  rw [Table.holds_iff_mem_keys]
  exact store_notMem_keys numbered room uniqueId data plain

theorem numbered_store (numbered : library.Numbered) (room : library.stored.toNat + 1 < 2 ^ 64)
    (uniqueId : String) (data : Bytes) (plain : Plain extension) :
    Numbered (library.store uniqueId data extension).2 := by
  intro key member
  rw [keys_store numbered room uniqueId data plain, List.mem_append, List.mem_singleton] at member
  rcases member with known | rfl
  · obtain ⟨uniqueId', number, extension', plain', given, same⟩ := numbered key known
    refine ⟨uniqueId', number, extension', plain', ?_, same⟩
    rw [UInt64.le_iff_toNat_le] at given ⊢
    exact Nat.le_trans given (Nat.le_of_lt (by rw [store, toNat_stored_add_one room]; omega))
  · exact ⟨uniqueId, _, extension, plain, UInt64.le_refl _, rfl⟩

theorem get?_store (library : MediaLibrary) (uniqueId : String) (data : Bytes)
    (extension key : String) :
    (library.store uniqueId data extension).2.get? key =
      if (library.store uniqueId data extension).1 = key then some data else library.get? key :=
  Table.get?_put _ _ _ _

/-! ### Storing one thing after the other -/

/-- What is given to a library to keep. -/
structure Submission where
  uniqueId : String
  data : Bytes
  extension : String

/-- Stores everything in order, with the references answered. -/
def storeAll (library : MediaLibrary) : List Submission → List String × MediaLibrary
  | [] => ([], library)
  | s :: rest =>
    let (reference, library) := library.store s.uniqueId s.data s.extension
    let (references, library) := library.storeAll rest
    (reference :: references, library)

/-- What a library has after storing everything. -/
structure Kept (library : MediaLibrary) (submissions : List Submission) (references : List String)
    (after : MediaLibrary) : Prop where
  distinct : references.Nodup
  new : ∀ reference ∈ references, reference ∉ Table.keys library.files
  old : ∀ key ∈ Table.keys library.files, after.get? key = library.get? key
  found : List.Forall₂ (fun reference s => after.get? reference = some s.data) references
    submissions
  size : after.size = library.size + submissions.length

theorem size_eq_length_keys (library : MediaLibrary) :
    library.size = (Table.keys library.files).length :=
  List.length_map _ |>.symm

theorem kept_storeAll (submissions : List Submission) (numbered : library.Numbered)
    (room : library.stored.toNat + submissions.length < 2 ^ 64)
    (plain : ∀ s ∈ submissions, Plain s.extension) :
    Kept library submissions (library.storeAll submissions).1 (library.storeAll submissions).2 := by
  induction submissions generalizing library with
  | nil => exact ⟨List.nodup_nil, by simp [storeAll], fun _ _ => rfl, .nil, rfl⟩
  | cons s rest ih =>
    obtain ⟨ends, others⟩ := List.forall_mem_cons.1 plain
    rw [List.length_cons] at room
    have first : library.stored.toNat + 1 < 2 ^ 64 := by omega
    have keys := keys_store numbered first s.uniqueId s.data ends
    have kept := ih (numbered_store numbered first s.uniqueId s.data ends)
      (by rw [store, toNat_stored_add_one first]; omega) others
    have there : (library.store s.uniqueId s.data s.extension).1 ∈
        Table.keys (library.store s.uniqueId s.data s.extension).2.files := by
      rw [keys]
      exact List.mem_append_right _ (List.mem_singleton_self _)
    have unseen := store_notMem_keys numbered first s.uniqueId s.data ends
    constructor
    · exact List.nodup_cons.2 ⟨fun again => kept.new _ again there, kept.distinct⟩
    · intro reference member known
      rcases List.mem_cons.1 member with rfl | later
      · exact unseen known
      · exact kept.new reference later (by rw [keys]; exact List.mem_append_left _ known)
    · intro key known
      refine (kept.old key (by rw [keys]; exact List.mem_append_left _ known)).trans ?_
      rw [get?_store, if_neg]
      rintro rfl
      exact unseen known
    · refine .cons ((kept.old _ there).trans ?_) kept.found
      rw [get?_store, if_pos rfl]
    · refine kept.size.trans ?_
      rw [size_eq_length_keys, keys, List.length_append, ← size_eq_length_keys,
        List.length_singleton, List.length_cons]
      omega

/-- Whatever is stored, the references differ from one another, the data of each are found under it
afterwards, and there are as many files as were stored. -/
theorem kept_of_storeAll (submissions : List Submission) (few : submissions.length < 2 ^ 64)
    (plain : ∀ s ∈ submissions, '/' ∉ s.extension.toList) :
    (empty.storeAll submissions).1.Nodup ∧
      List.Forall₂ (fun reference s => (empty.storeAll submissions).2.get? reference = some s.data)
        (empty.storeAll submissions).1 submissions ∧
      (empty.storeAll submissions).2.size = submissions.length := by
  have kept :=
    kept_storeAll submissions numbered_empty (by rwa [empty, UInt64.toNat_zero, Nat.zero_add]) plain
  exact ⟨kept.distinct, kept.found, kept.size.trans (Nat.zero_add _)⟩

/-- Submissions whose identifiers look like references. -/
def sampleSubmissions : List Submission :=
  [⟨"1", [0xFF, 0xD8], "jpg"⟩, ⟨"1/1.jpg", [1], "amr"⟩, ⟨"1", [], ""⟩]

theorem kept_of_sampleSubmissions :
    (empty.storeAll sampleSubmissions).1.Nodup ∧ (empty.storeAll sampleSubmissions).2.size = 3 :=
  have kept := kept_of_storeAll sampleSubmissions (by decide) (by decide)
  ⟨kept.1, kept.2.2⟩

end MediaLibrary
end TrackerGateway
