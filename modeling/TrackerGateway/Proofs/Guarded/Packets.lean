import TrackerGateway.Proofs.Egts.Concatenation
import TrackerGateway.Proofs.Guarded.Cursor

/-!
# Cutting and reading packets by cursor

A packet says how long its header and its frame data are, in an octet and in two. What is worked
out from these lengths fits in a word whatever they say, and no octet is looked at that is not
there: a stream is cut by a length only where so many octets have come, and a packet of a unit is
read only where the lengths of its header fit in what is left.
-/

namespace TrackerGateway.Egts.Checked

open Guarded Scan

/-- The length of a packet whose header and frame data have these lengths. -/
def size (headerLength frameLength : Nat) : Guarded Nat := do
  let both ← word (headerLength + frameLength)
  word (both + if 0 < frameLength then 2 else 0)

theorem size_of_lt {headerLength frameLength : Nat} (short : headerLength < 256)
    (few : frameLength < 65536) :
    size headerLength frameLength = .ok (Packet.size headerLength frameLength) := by
  rw [size, word_of_lt (by omega), ok_bind, word_of_lt (by split <;> omega)]
  rfl

/-! ### Streams -/

/-- Cuts off one packet once it is complete. -/
def step (buffer : Bytes) : Guarded Framing.Step := do
  if buffer.length < Packet.leastHeader then pure (.wait buffer)
  else
    let headerLength ← entry buffer 3
    if headerLength.toNat < Packet.leastHeader then
      pure (.failed (.protocol (.framingDesync headerLength.toNat buffer.length)) buffer)
    else
      let low ← entry buffer 5
      let high ← entry buffer 6
      let total ← size headerLength.toNat (Bytes.le [low, high])
      if buffer.length < total then
        let _missing ← less total buffer.length
        pure (.wait buffer)
      else
        let (unit, rest) ← cut buffer total
        pure (.unit unit rest)

/-- The octets that say how long a packet is are there once a least header is. -/
theorem exists_lengths {buffer : Bytes} (enough : Packet.leastHeader ≤ buffer.length) :
    ∃ headerLength low high, entry buffer 3 = .ok headerLength ∧ entry buffer 5 = .ok low ∧
      entry buffer 6 = .ok high ∧ Packet.declaredHeader buffer = headerLength.toNat ∧
      Packet.declaredSize buffer = Packet.size headerLength.toNat (Bytes.le [low, high]) := by
  match buffer, enough with
  | _ :: _ :: _ :: headerLength :: _ :: low :: high :: _, _ =>
    exact ⟨headerLength, low, high, rfl, rfl, rfl, rfl, rfl⟩

/-- Cutting looks at no octet that has not come. -/
theorem step_eq (buffer : Bytes) : step buffer = .ok (Packet.step buffer) := by
  obtain few | enough := Nat.lt_or_ge buffer.length Packet.leastHeader
  · have wants : Bytes.hasAtLeast Packet.leastHeader buffer = false := by
      rw [Bool.eq_false_iff, ne_eq, Bytes.hasAtLeast_iff]
      exact Nat.not_le.2 few
    rw [step, if_pos few, Packet.step, wants]
    rfl
  · have has : Bytes.hasAtLeast Packet.leastHeader buffer = true :=
      (Bytes.hasAtLeast_iff ..).2 enough
    obtain ⟨headerLength, low, high, third, fifth, sixth, declares, whole⟩ := exists_lengths enough
    have total : size headerLength.toNat (Bytes.le [low, high]) =
        .ok (Packet.declaredSize buffer) := by
      rw [whole]
      exact size_of_lt headerLength.toNat_lt (Bytes.le_pair_lt low high)
    rw [step, if_neg (Nat.not_lt.2 enough), Packet.step, has, declares, third, fifth, sixth]
    simp only [ok_bind, total, Bool.not_true, Bool.false_eq_true, if_false]
    by_cases desync : headerLength.toNat < Packet.leastHeader
    · rw [if_pos desync, if_pos desync]
      rfl
    · rw [if_neg desync, if_neg desync]
      obtain missing | complete := Nat.lt_or_ge buffer.length (Packet.declaredSize buffer)
      · rw [if_pos missing, less_of_le (Nat.le_of_lt missing), if_neg]
        · rfl
        · rw [Bytes.hasAtLeast_iff]
          exact Nat.not_le.2 missing
      · rw [if_neg (Nat.not_lt.2 complete), cut_of_le complete,
          if_pos ((Bytes.hasAtLeast_iff ..).2 complete)]
        rfl

/-! ### Units -/

/-- Looks at the header ahead. -/
def header : Scan Packet.Header := do
  let headerLength ← peek 3
  let frameLength ← peekLe16 5
  let packetId ← peekLe16 7
  let packetType ← peek 9
  let declared ← guarded (size headerLength.toNat frameLength)
  let left ← remaining
  if headerLength.toNat < Packet.leastHeader ∨ left < declared then
    fail (.framingDesync declared left)
  else pure ⟨headerLength.toNat, frameLength, packetId, packetType.toNat⟩

/-- Passes over frame data and their check. -/
def passOver (frameLength : Nat) : Scan Unit := do
  if 0 < frameLength then
    let count ← guarded (word (frameLength + 2))
    let _passed ← take count
    pure ()
  else pure ()

/-- Reads the check of frame data. -/
def readCheck (frameLength : Nat) : Scan Unit := do
  if 0 < frameLength then
    let _check ← le 2
    pure ()
  else pure ()

/-- What of a packet is to be taken: nothing, if it acknowledges another. -/
def taken (packet : Packet) : Option Packet :=
  if packet.packetType = Packet.typeResponse then none else some packet

/-- Reads what a header announces. -/
def announced (found : Packet.Header) : Scan (Option Packet) := do
  let _header ← take found.headerLength
  if found.packetType = Packet.typeResponse then
    passOver found.frameLength
    pure none
  else
    let frame ← take found.frameLength
    readCheck found.frameLength
    pure (some ⟨found.packetId, found.packetType, frame⟩)

/-- Reads the packet ahead. -/
def packet : Scan (Option Packet) := header >>= announced

/-- Whether a header fits is a matter of how many octets are left. -/
theorem fitting_eq_bind (found : Packet.Header) (r : Reader) :
    (found.fitting r).map (·, r) = (.ok (r.remaining, r) : Except ProtocolFault (Nat × Reader)) >>=
        fun p =>
      if found.headerLength < Packet.leastHeader ∨
        p.1 < Packet.size found.headerLength found.frameLength then
        .error (.framingDesync (Packet.size found.headerLength found.frameLength) p.1)
      else .ok (found, p.2) := by
  have wants (declared : Nat) : (!Bytes.hasAtLeast declared r.rest) = true ↔
      r.remaining < declared := by
    rw [Bool.not_eq_true', Bool.eq_false_iff, ne_eq, Bytes.hasAtLeast_iff, Nat.not_le,
      Reader.remaining]
  simp only [Packet.Header.fitting, Bool.or_eq_true, decide_eq_true_eq, wants]
  split
  · rename_i unfit
    exact (if_pos unfit).symm
  · rename_i fits
    exact (if_neg fits).symm

/-- The header ahead, with the reader handed on from field to field. -/
def headerInTurn (r : Reader) : Except ProtocolFault (Packet.Header × Reader) := do
  let (headerLength, r) ← (r.peek 3).map (·, r)
  let (frameLength, r) ← (r.peekLe16 5).map (·, r)
  let (packetId, r) ← (r.peekLe16 7).map (·, r)
  let (packetType, r) ← (r.peek 9).map (·, r)
  ((Packet.Header.mk headerLength.toNat frameLength packetId packetType.toNat).fitting r).map (·, r)

theorem peek_eq_headerInTurn (r : Reader) : (Packet.Header.peek r).map (·, r) = headerInTurn r := by
  simp only [Packet.Header.peek, headerInTurn, map_eq_bind, bind_assoc]
  rfl

theorem header_follows : Follows header fun r => (Packet.Header.peek r).map (·, r) := by
  rw [funext peek_eq_headerInTurn]
  unfold headerInTurn
  refine (Follows.peek (by decide)).bind fun headerLength => ?_
  refine Follows.peekLe16_bind (by decide) fun frameLength few => ?_
  refine (Follows.peekLe16 (by decide)).bind fun packetId => ?_
  refine (Follows.peek (by decide)).bind fun packetType => ?_
  refine Follows.guarded_bind (size_of_lt headerLength.toNat_lt few) ?_
  simp only [fitting_eq_bind]
  refine Follows.remaining.bind fun left => ?_
  dsimp only
  split
  · exact Follows.fail _
  · exact Follows.pure _

/-- The length of the check of frame data. -/
def checkLength (frameLength : Nat) : Nat := if 0 < frameLength then 2 else 0

variable {c : Cursor}

theorem passOver_of_le (sound : c.Sound) {frameLength : Nat}
    (fits : frameLength + checkLength frameLength ≤ c.reader.rest.length) :
    passOver frameLength c = .ok (.ok ((), c.moved (frameLength + checkLength frameLength))) := by
  have held := sound.length_rest_lt
  rw [passOver]
  by_cases filled : 0 < frameLength
  · rw [checkLength, if_pos filled] at fits ⊢
    rw [if_pos filled, word_of_lt (by omega), bind_of_eq (guarded_ok _ c),
      bind_of_eq (take_of_le sound fits)]
    rfl
  · obtain rfl := Nat.eq_zero_of_not_pos filled
    rfl

theorem readCheck_of_le (sound : c.Sound) {frameLength : Nat}
    (fits : checkLength frameLength ≤ c.reader.rest.length) :
    readCheck frameLength c = .ok (.ok ((), c.moved (checkLength frameLength))) := by
  rw [readCheck]
  by_cases filled : 0 < frameLength
  · rw [checkLength, if_pos filled] at fits ⊢
    rw [if_pos filled, bind_of_eq (le_of_le sound fits)]
    rfl
  · obtain rfl := Nat.eq_zero_of_not_pos filled
    rfl

/-- What a header announces is there if it fits. -/
theorem announced_of_le {found : Packet.Header} (sound : c.Sound)
    (fits : Packet.size found.headerLength found.frameLength ≤ c.reader.rest.length) :
    announced found c = .ok (.ok (taken ⟨found.packetId, found.packetType,
        (c.reader.rest.drop found.headerLength).take found.frameLength⟩,
        c.moved (Packet.size found.headerLength found.frameLength))) := by
  have whole : Packet.size found.headerLength found.frameLength =
      found.headerLength + found.frameLength + checkLength found.frameLength := rfl
  have first : found.headerLength ≤ c.reader.rest.length := by omega
  have after := sound.moved first
  rw [announced, bind_of_eq (take_of_le sound first), taken]
  dsimp only
  split
  · rw [bind_of_eq (passOver_of_le after _), whole]
    · simp only [Cursor.moved_moved, Nat.add_assoc]
      rfl
    · rw [Cursor.rest_moved, List.length_drop]
      omega
  · have second : found.frameLength ≤ (c.moved found.headerLength).reader.rest.length := by
      rw [Cursor.rest_moved, List.length_drop]
      omega
    rw [bind_of_eq (take_of_le after second), bind_of_eq (readCheck_of_le (after.moved second) _),
      whole]
    · simp only [Cursor.moved_moved, Cursor.rest_moved]
      rfl
    · rw [Cursor.rest_moved, Cursor.rest_moved, List.length_drop, List.length_drop]
      omega

theorem size_le_of_fitting {found other : Packet.Header} {r : Reader}
    (fits : found.fitting r = .ok other) :
    other = found ∧ Packet.size found.headerLength found.frameLength ≤ r.rest.length := by
  rw [Packet.Header.fitting] at fits
  split at fits
  · cases fits
  · rename_i enough
    cases fits
    rw [Bool.or_eq_true, not_or, Bool.not_eq_true', Bool.not_eq_false,
      Bytes.hasAtLeast_iff] at enough
    exact ⟨rfl, enough.2⟩

theorem packet_of_next {found : Packet} {rest : Bytes} (sound : c.Sound)
    (least : Packet.leastHeader ≤ c.reader.rest.length)
    (read : Packet.next c.reader.rest = .ok (found, rest)) :
    ∃ next : Cursor, next.Sound ∧ next.reader.rest = rest ∧
      packet c = .ok (.ok (taken found, next)) := by
  have alike : Alike (header c) ((Packet.Header.peek (.ofBytes c.reader.rest)).map (·, c.reader)) :=
    header_follows c sound
  rw [Packet.next] at read
  cases peeked : Packet.Header.peek (.ofBytes c.reader.rest) with
  | error fault =>
    rw [peeked] at read
    cases read
  | ok ahead =>
    rw [peeked] at read alike
    cases read
    obtain ⟨next, after, same, done⟩ := alike.exists_of_ok
    have fits : Packet.size ahead.headerLength ahead.frameLength ≤ next.reader.rest.length := by
      rw [Packet.Header.peek_of_le least] at peeked
      obtain ⟨rfl, fits⟩ := size_le_of_fitting peeked
      rw [same]
      exact fits
    refine ⟨_, after.moved fits, ?_, ?_⟩
    · rw [Cursor.rest_moved, same]
    · rw [packet, bind_of_eq done, announced_of_le after fits, same]

theorem packet_of_fault {fault : ProtocolFault} (sound : c.Sound)
    (failed : Packet.next c.reader.rest = .error fault) : packet c = .ok (.error fault) := by
  have alike : Alike (header c) ((Packet.Header.peek (.ofBytes c.reader.rest)).map (·, c.reader)) :=
    header_follows c sound
  rw [Packet.next] at failed
  cases peeked : Packet.Header.peek (.ofBytes c.reader.rest) with
  | error cause =>
    rw [peeked] at failed alike
    cases failed
    rw [packet, bind_of_short alike.eq_of_error]
  | ok ahead =>
    rw [peeked] at failed
    cases failed

end TrackerGateway.Egts.Checked
