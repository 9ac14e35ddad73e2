import TrackerGateway.Egts.Packet
import TrackerGateway.Proofs.Bytes.Bursts

/-!
# Octets of a packet that were changed on the way

The check of a header finds out any octet that is not as it was sent, its own included, and the
check of frame data any one octet or two neighbours (`corruption_detected`).
-/

namespace TrackerGateway.Egts.Packet

theorem odd_egtsHeader : Crc.egtsHeader.Odd := by
  unfold Crc.Odd
  decide

theorem odd_ccittFalse : Crc.ccittFalse.Odd := by
  unfold Crc.Odd
  decide

theorem headerCheck_ne_of_checksum_ne {first second : Bytes}
    (differ : Crc.egtsHeader.checksum first ≠ Crc.egtsHeader.checksum second) :
    headerCheck first ≠ headerCheck second :=
  fun same => differ (UInt8.ofBitVec.inj same)

theorem headerMatches_concat_iff {octets : Bytes} {check : UInt8} :
    headerMatches (octets ++ [check]) = true ↔ headerCheck octets = check := by
  simp [headerMatches]

/-- A header that was right is not right any more if an octet of it is changed. -/
theorem headerMatches_set {header : Bytes} (right : headerMatches header = true) {i : Nat}
    (inside : i < header.length) {b : UInt8} (differ : b ≠ header[i]) :
    headerMatches (header.set i b) = false := by
  rw [← Bool.not_eq_true]
  obtain rfl | ⟨octets, check, rfl⟩ := header.eq_nil_or_concat'
  · simp at inside
  rw [headerMatches_concat_iff] at right
  rw [List.length_append, List.length_singleton] at inside
  by_cases own : i < octets.length
  · rw [List.getElem_append_left own] at differ
    rw [List.set_append_left _ _ own, headerMatches_concat_iff, ← right]
    exact headerCheck_ne_of_checksum_ne (Crc.checksum_set_ne odd_egtsHeader (by decide) own differ)
  · obtain rfl : i = octets.length := by omega
    rw [List.getElem_concat_length] at differ
    · rw [List.set_append_right _ _ (by omega), Nat.sub_self, List.set_cons_zero,
        headerMatches_concat_iff, right]
      exact differ.symm
    · rfl

/-- No change of one octet of a header with its check passes the check, and no change of one octet
of frame data or of two that are neighbours leaves their check as it was. -/
theorem corruption_detected :
    (∀ (header : Bytes) (i : Nat) (inside : i < header.length) (b : UInt8),
      headerMatches header = true → b ≠ header[i] → headerMatches (header.set i b) = false) ∧
      (∀ (frame : Bytes) (i : Nat) (inside : i < frame.length) (b : UInt8), b ≠ frame[i] →
        Crc.ccittFalse.checksum (frame.set i b) ≠ Crc.ccittFalse.checksum frame) ∧
      ∀ (frame : Bytes) (i : Nat) (inside : i + 1 < frame.length) (a b : UInt8),
        a ≠ frame[i] ∨ b ≠ frame[i + 1] →
        Crc.ccittFalse.checksum ((frame.set i a).set (i + 1) b) ≠ Crc.ccittFalse.checksum frame :=
  ⟨fun _ _ inside _ right differ => headerMatches_set right inside differ,
    fun _ _ inside _ differ => Crc.checksum_set_ne odd_ccittFalse (by decide) inside differ,
    fun _ _ inside _ _ differ => Crc.checksum_set_set_ne odd_ccittFalse (by decide) inside differ⟩

/-- The header of a packet without frame data, its routing flag raised, and frame data whose middle
octets are swapped. -/
theorem corruption_detected_sample :
    headerMatches (build 7 typeResponse []) = true ∧
      headerMatches ((build 7 typeResponse []).set 2 0x20) = false ∧
      Crc.ccittFalse.checksum [1, 9, 2, 7] ≠ Crc.ccittFalse.checksum [1, 2, 2, 7] ∧
      Crc.ccittFalse.checksum [1, 9, 2, 7] ≠ Crc.ccittFalse.checksum [1, 2, 9, 7] :=
  have right : headerMatches (build 7 typeResponse []) = true := by decide +kernel
  ⟨right, corruption_detected.1 _ 2 (by decide) 0x20 right (by decide),
    corruption_detected.2.1 [1, 2, 2, 7] 1 (by decide) 9 (by decide),
    corruption_detected.2.2 [1, 2, 9, 7] 1 (by decide) 9 2 (by decide)⟩

end TrackerGateway.Egts.Packet
