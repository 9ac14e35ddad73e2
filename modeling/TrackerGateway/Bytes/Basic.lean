/-!
# Byte strings and the numbers they carry

Every wire format of this library works on `Bytes`, a list of octets. A number of `w` octets is
written by `ofLe w` and read by `le`, least significant octet first; `be` reads the other order.
-/

namespace TrackerGateway

/-- A byte string, first octet first. -/
abbrev Bytes := List UInt8

namespace Bytes

/-- The number whose base 256 digits are the octets, least significant first. -/
def le : Bytes → Nat
  | [] => 0
  | b :: rest => b.toNat + 256 * le rest

/-- The number whose base 256 digits are the octets, most significant first. -/
def be (bytes : Bytes) : Nat := bytes.foldl (fun n b => 256 * n + b.toNat) 0

/-- The `width` lowest base 256 digits of `n`, least significant first. -/
def ofLe : Nat → Nat → Bytes
  | 0, _ => []
  | width + 1, n => UInt8.ofNat n :: ofLe width (n / 256)

/-- Reads `bits` wide two's complement out of an unsigned number. -/
def signed (bits n : Nat) : Int := Int.bmod n (Nat.pow 2 bits)

/-- Whether `bytes` holds at least `n` octets; looks at no more than `n` of them. -/
def hasAtLeast (n : Nat) (bytes : Bytes) : Bool := (bytes.take n).length == n

/-- The octets before the first `stop` and those after it. -/
def cut? (stop : UInt8) (octets : Bytes) : Option (Bytes × Bytes) :=
  match octets.dropWhile (· != stop) with
  | [] => none
  | _ :: rest => some (octets.takeWhile (· != stop), rest)

@[simp] theorem length_ofLe (width n : Nat) : (ofLe width n).length = width := by
  induction width generalizing n with
  | zero => rfl
  | succ width ih => simp [ofLe, ih]

theorem hasAtLeast_iff (n : Nat) (bytes : Bytes) :
    hasAtLeast n bytes = true ↔ n ≤ bytes.length := by
  simp only [hasAtLeast, List.length_take, beq_iff_eq]
  omega

theorem cut?_eq_some {stop : UInt8} {octets front rest : Bytes}
    (h : cut? stop octets = some (front, rest)) :
    octets = front ++ stop :: rest ∧ stop ∉ front := by
  unfold cut? at h
  split at h
  · cases h
  · rename_i b after he
    injection h with h
    cases h
    have hb : b = stop := by
      have := List.head?_dropWhile_not (· != stop) octets
      simp only [he, List.head?_cons] at this
      simpa using this
    refine ⟨?_, ?_⟩
    · conv => lhs; rw [← List.takeWhile_append_dropWhile (p := (· != stop)) (l := octets), he, hb]
    · intro hm
      have := List.all_eq_true.1 (List.all_takeWhile (p := (· != stop)) (l := octets)) stop hm
      simp at this

theorem cut?_of_notMem {stop : UInt8} {front : Bytes} (rest : Bytes) (h : stop ∉ front) :
    cut? stop (front ++ stop :: rest) = some (front, rest) := by
  have passed : ∀ b ∈ front, (b != stop) = true := by
    intro b hb
    have : b ≠ stop := fun same => h (same ▸ hb)
    simpa using this
  simp [cut?, List.dropWhile_append_of_pos passed, List.takeWhile_append_of_pos passed]

/-- Octets after those that were cut do not move the cut. -/
theorem cut?_append {stop : UInt8} {octets front rest : Bytes} (more : Bytes)
    (h : cut? stop octets = some (front, rest)) :
    cut? stop (octets ++ more) = some (front, rest ++ more) := by
  obtain ⟨rfl, absent⟩ := cut?_eq_some h
  simpa using cut?_of_notMem (rest ++ more) absent

theorem hasAtLeast_append {n : Nat} {bytes : Bytes} (more : Bytes)
    (h : hasAtLeast n bytes = true) : hasAtLeast n (bytes ++ more) = true := by
  rw [hasAtLeast_iff] at h ⊢
  simp only [List.length_append]
  omega

/-- Octets after those that are picked out play no part. -/
theorem slice_append {octets : Bytes} {start count : Nat} (more : Bytes)
    (h : start + count ≤ octets.length) :
    ((octets ++ more).drop start).take count = (octets.drop start).take count := by
  have inside : count ≤ (octets.drop start).length := by
    rw [List.length_drop]
    exact Nat.le_sub_of_add_le' h
  rw [List.drop_append_of_le_length (Nat.le_trans (Nat.le_add_right start count) h),
    List.take_append_of_le_length inside]

end Bytes
end TrackerGateway
