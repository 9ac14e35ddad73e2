import Mathlib.Data.List.Forall2
import TrackerGateway.Proofs.Framing.Delivery
import TrackerGateway.Proofs.Watch.Escape
import TrackerGateway.Proofs.Watch.Segmentation

/-!
# Frames as watches write them

A `Frame` has the fields of its header and its content, and says in which of the allowed ways they
are written. `Carries` are the streams of such frames, with noise around them. However a stream is
divided, its frames arrive in order and alone, each with its content as it was before it was
written (`feedAll_of_frames`).
-/

namespace TrackerGateway

namespace Hex

/-- Whether an octet writes a digit, in either case. -/
def Writes (value : Nat) (octet : UInt8) : Prop :=
  octet.toNat = (digit value).toNat ∨ octet.toNat = (digit value).toUpper.toNat

instance (value : Nat) (octet : UInt8) : Decidable (Writes value octet) :=
  inferInstanceAs (Decidable (_ ∨ _))

theorem value?_of_writes {value : Nat} {octet : UInt8} (h : Writes value octet)
    (below : value < 16) : value? (Char.ofNat octet.toNat) = some value := by
  have lower : ∀ v < 16, value? (Char.ofNat (digit v).toNat) = some v := by decide
  have upper : ∀ v < 16, value? (Char.ofNat (digit v).toUpper.toNat) = some v := by decide
  rcases h with h | h
  · rw [h]
    exact lower value below
  · rw [h]
    exact upper value below

end Hex

namespace Watch

/-- The four digits of a number of sixteen bits. -/
def places (n : Nat) : List Nat := [n / 4096, n / 256 % 16, n / 16 % 16, n % 16]

/-- What a frame tells, and the octets that its length and its content are written with. -/
structure Frame.Fields where
  first : UInt8
  second : UInt8
  deviceId : Bytes
  index : Option Bytes
  digits : Bytes
  content : Bytes
  body : Bytes

namespace Frame.Fields

/-- The header: manufacturer, device, index and length. -/
def head (f : Fields) : Bytes :=
  [opening, f.first, f.second, star] ++ f.deviceId ++ [star] ++
    (f.index.map (· ++ [star])).getD [] ++ f.digits ++ [star]

theorem length_head (f : Fields) : f.head.length =
    4 + f.deviceId.length + 1 + (f.index.map (·.length + 1)).getD 0 + f.digits.length + 1 := by
  cases index : f.index with
  | none => simp [head, index]; omega
  | some field => simp [head, index]; omega

/-- The frame as it is sent. -/
def wire (f : Fields) : Bytes := f.head ++ f.body ++ [closing]

/-- The frame with its content as it is. -/
def resolved (f : Fields) : Bytes := f.head ++ f.content ++ [closing]

/-- The header as it is read. -/
def header (f : Fields) : Header where
  manufacturer := Utf8.decodeLossy [f.first, f.second]
  deviceId := Utf8.decodeLossy f.deviceId
  index := f.index.map Utf8.decodeLossy
  length := f.content.length
  contentStart := f.head.length

@[simp] theorem header_length (f : Fields) : f.header.length = f.content.length := rfl

@[simp] theorem header_contentStart (f : Fields) : f.header.contentStart = f.head.length := rfl

/-- Fields that can be told apart, with a length that is right. -/
structure Legible (f : Fields) : Prop where
  deviceId_ne_nil : f.deviceId ≠ []
  star_notMem_deviceId : star ∉ f.deviceId
  star_notMem_index : ∀ field ∈ f.index, star ∉ field
  content_le : f.content.length ≤ 65535
  digits_write : List.Forall₂ Hex.Writes (places f.content.length) f.digits

end Frame.Fields

/-- A frame of a watch. -/
structure Frame extends Frame.Fields where
  deviceId_ne_nil : deviceId ≠ []
  star_notMem_deviceId : star ∉ deviceId
  star_notMem_index : ∀ field ∈ index, star ∉ field
  content_le : content.length ≤ 65535
  digits_write : List.Forall₂ Hex.Writes (places content.length) digits
  body_writes : Escape.Writes content body
  head_le : toFields.head.length ≤ 56

/-! ### Headers -/

namespace Header

theorem ofFields_ne_incomplete (manufacturer deviceId length : Bytes) (index : Option Bytes) :
    ofFields manufacturer deviceId index length ≠ .incomplete := by
  unfold ofFields
  split <;> simp

theorem scanLength_ne_incomplete {manufacturer deviceId field after : Bytes}
    (five : 5 ≤ after.length) : scanLength manufacturer deviceId field after ≠ .incomplete := by
  rw [scanLength, if_pos ((Bytes.hasAtLeast_iff 5 after).2 five)]
  split
  · exact ofFields_ne_incomplete _ _ _ _
  · exact ofFields_ne_incomplete _ _ _ _

/-- A closing bracket with no asterisk before it shows that the field before was the length. -/
theorem scanLength_of_closing {manufacturer deviceId field body : Bytes} (rest : Bytes)
    (starless : star ∉ body) :
    scanLength manufacturer deviceId field (body ++ closing :: rest) =
      ofFields manufacturer deviceId none field := by
  rw [scanLength_closing, if_neg]
  rw [startsWithLength, Bool.and_eq_true, decide_eq_true_eq]
  rintro ⟨fifth, -⟩
  exact starless (List.mem_of_getElem? fifth)

end Header

namespace Frame.Fields.Legible

variable {f : Fields} (legible : f.Legible)

include legible

theorem exists_digits : ∃ a b c d, f.digits = [a, b, c, d] ∧
    Hex.Writes (f.content.length / 4096) a ∧ Hex.Writes (f.content.length / 256 % 16) b ∧
      Hex.Writes (f.content.length / 16 % 16) c ∧ Hex.Writes (f.content.length % 16) d := by
  have written := legible.digits_write
  simp only [places, List.forall₂_cons_left_iff, List.forall₂_nil_left_iff] at written
  obtain ⟨a, _, ha, ⟨b, _, hb, ⟨c, _, hc, ⟨d, _, hd, rfl, rfl⟩, rfl⟩, rfl⟩, written⟩ := written
  exact ⟨a, b, c, d, written, ha, hb, hc, hd⟩

/-- The digits are read as the length that they write. -/
theorem digits_read :
    Header.isLength f.digits = true ∧ Header.lengthOf f.digits = f.content.length := by
  obtain ⟨a, b, c, d, digits, ha, hb, hc, hd⟩ := legible.exists_digits
  have limit := legible.content_le
  have va := Hex.value?_of_writes ha (by omega)
  have vb := Hex.value?_of_writes hb (by omega)
  have vc := Hex.value?_of_writes hc (by omega)
  have vd := Hex.value?_of_writes hd (by omega)
  rw [digits]
  constructor
  · simp [Header.isLength, Hex.isDigitByte, va, vb, vc, vd]
  · simp only [Header.lengthOf, List.foldl_cons, List.foldl_nil, va, vb, vc, vd, Option.getD_some]
    omega

theorem star_notMem_digits : star ∉ f.digits := by
  intro member
  have digits := legible.digits_read.1
  simp only [Header.isLength, Bool.and_eq_true, List.all_eq_true] at digits
  have := digits.2 star member
  cases this

theorem ofFields_eq :
    Header.ofFields [f.first, f.second] f.deviceId f.index f.digits = .complete f.header := by
  obtain ⟨isLength, length⟩ := legible.digits_read
  rw [Header.ofFields, if_pos isLength, length, ← f.length_head]
  rfl

theorem read_head_append (after : Bytes) : Header.read (f.head ++ after) =
    match f.index with
    | some _ => .complete f.header
    | none => Header.scanLength [f.first, f.second] f.deviceId f.digits after := by
  have made := legible.ofFields_eq
  cases index : f.index with
  | none =>
    have shape : f.head ++ after = opening :: f.first :: f.second :: star ::
        (f.deviceId ++ star :: (f.digits ++ star :: after)) := by
      simp [head, index]
    rw [shape]
    exact Header.read_of_fields after legible.deviceId_ne_nil legible.star_notMem_deviceId
      legible.star_notMem_digits
  | some field =>
    have shape : f.head ++ after = opening :: f.first :: f.second :: star ::
        (f.deviceId ++ star :: (field ++ star :: (f.digits ++ star :: after))) := by
      simp [head, index]
    rw [shape, Header.read_of_fields _ legible.deviceId_ne_nil legible.star_notMem_deviceId
      (legible.star_notMem_index field index),
      Header.scanLength_of_length after legible.digits_read.1]
    rwa [index] at made

/-- Five octets after a header tell that it is one. -/
theorem read_ne_incomplete {after : Bytes} (five : 5 ≤ after.length) :
    Header.read (f.head ++ after) ≠ .incomplete := by
  rw [legible.read_head_append]
  split
  · simp
  · exact Header.scanLength_ne_incomplete five

end Frame.Fields.Legible

namespace Frame

variable (f : Frame)

theorem legible : f.toFields.Legible where
  deviceId_ne_nil := f.deviceId_ne_nil
  star_notMem_deviceId := f.star_notMem_deviceId
  star_notMem_index := f.star_notMem_index
  content_le := f.content_le
  digits_write := f.digits_write

theorem read_wire_append (rest : Bytes) :
    Header.read (f.wire ++ rest) = .complete f.header := by
  have shape : f.wire ++ rest = f.head ++ (f.body ++ closing :: rest) := by simp [Fields.wire]
  have starless : star ∉ f.body := f.body_writes.notMem (by decide) (by decide)
  rw [shape, f.legible.read_head_append]
  cases index : f.index with
  | none =>
    simp only
    rw [Header.scanLength_of_closing rest starless, ← index, f.legible.ofFields_eq]
  | some field => rfl

theorem wire_length_le : f.wire.length ≤ defaultLimit := by
  have head := f.head_le
  have body := f.body_writes.length_le
  have content := f.content_le
  simp only [Fields.wire, List.length_append, List.length_singleton, defaultLimit]
  omega

/-! ### Cutting -/

/-- A whole frame is cut off, whatever comes after it. -/
theorem step_wire_append (limit : Nat) (rest : Bytes) :
    step limit (f.wire ++ rest) = .unit f.resolved rest := by
  have found := skipNoise_of_complete (Header.scan_eq_complete.2 (f.read_wire_append rest))
  have shape : f.wire ++ rest = f.head ++ (f.body ++ closing :: rest) := by simp [Fields.wire]
  have taken := takeResolved_of_writes f.body_writes [] (closing :: rest)
  rw [step_of_header found, shape, Fields.header_length, Fields.header_contentStart, List.take_left,
    List.drop_left, cutFrame, taken]
  rfl

/-- The front of a frame waits for the rest. -/
theorem step_of_part {front rest : Bytes} (whole : f.wire = front ++ rest) (more : rest ≠ []) :
    step defaultLimit front = .wait front := by
  have within : front.length ≤ defaultLimit := by
    have := f.wire_length_le
    rw [whole, List.length_append] at this
    omega
  have waits : pause defaultLimit front = .wait front := by
    rw [pause, if_neg (Nat.not_lt.2 within)]
  have read := f.read_wire_append []
  rw [List.append_nil, whole] at read
  cases known : Header.read front with
  | invalid =>
    rw [Header.read_append rest (by simp [known]), known] at read
    cases read
  | incomplete =>
    have few : ¬ Bytes.hasAtLeast Header.patience front = true := by
      rw [Bytes.hasAtLeast_iff]
      intro many
      -- So many octets are the header and five more.
      have head := f.head_le
      simp only [Header.patience] at many
      have split : front = f.head ++ front.drop f.head.length := by
        have same : (f.head ++ (f.body ++ [closing])).take f.head.length =
            (front ++ rest).take f.head.length := by
          rw [← whole, Fields.wire, List.append_assoc]
        rw [List.take_left, List.take_append_of_le_length (by omega)] at same
        conv => lhs; rw [← List.take_append_drop f.head.length front, ← same]
      rw [split] at known
      refine f.legible.read_ne_incomplete ?_ known
      rw [List.length_drop]
      omega
    have scanned : Header.scan front = .incomplete := by simp [Header.scan, known, few]
    rw [step_of_open (skipNoise_of_incomplete scanned), waits]
  | complete found =>
    rw [Header.read_append rest (by simp [known]), known] at read
    cases read
    have inside := Header.contentStart_le_length known
    rw [step_of_header (skipNoise_of_complete (Header.scan_eq_complete.2 known)), cutFrame]
    rw [Fields.header_contentStart] at inside ⊢
    rw [Fields.header_length]
    have body : front.drop f.head.length ++ rest = f.body ++ [closing] := by
      rw [← List.drop_append_of_le_length inside, ← whole, Fields.wire, List.append_assoc,
        List.drop_left]
    have taken := takeResolved_of_writes f.body_writes [] [closing]
    rw [List.take_append_drop]
    split
    · exact waits
    · exact waits
    · rename_i content b after early
      have early := takeResolved_append rest early
      rw [body, taken] at early
      simp only [Option.some.injEq, Prod.mk.injEq, List.cons_append, List.cons.injEq,
        List.nil_eq, List.append_eq_nil_iff] at early
      exact absurd early.2.2.2 more

end Frame

/-! ### Streams -/

theorem skipNoise_append_of_notMem {noise : Bytes} (rest : Bytes) (quiet : opening ∉ noise) :
    skipNoise (noise ++ rest) = skipNoise rest := by
  induction noise with
  | nil => rfl
  | cons b noise ih =>
    rw [List.mem_cons, not_or] at quiet
    rw [List.cons_append, skipNoise, if_pos (Ne.symm quiet.1), ih quiet.2]

theorem step_append_of_notMem {limit : Nat} {noise : Bytes} (rest : Bytes)
    (quiet : opening ∉ noise) : step limit (noise ++ rest) = step limit rest := by
  rw [step, skipNoise_append_of_notMem rest quiet, step]

theorem step_of_notMem {limit : Nat} {noise : Bytes} (quiet : opening ∉ noise) :
    step limit noise = .wait [] := by
  rw [← List.append_nil noise, step_append_of_notMem [] quiet]
  rfl

/-- The streams of frames, with noise before, between and after them. -/
inductive Carries : List Frame → Bytes → Prop where
  | quiet {noise : Bytes} (quiet : opening ∉ noise) : Carries [] noise
  | frame {noise rest : Bytes} {frame : Frame} {frames : List Frame} (quiet : opening ∉ noise)
    (later : Carries frames rest) : Carries (frame :: frames) (noise ++ (frame.wire ++ rest))

theorem Frame.carries_wire (f : Frame) : Carries [f] f.wire := by
  have silent : opening ∉ ([] : Bytes) := List.not_mem_nil
  have alone : Carries [f] ([] ++ (f.wire ++ [])) := .frame silent (.quiet silent)
  rwa [List.append_nil, List.nil_append] at alone

/-- What a step makes of the front of a stream of frames. -/
theorem Carries.onward {frames : List Frame} {buffer more : Bytes}
    (h : Carries frames (buffer ++ more)) :
    Framing.Onward (fun units stream => ∃ frames, units = frames.map (·.resolved) ∧
      Carries frames stream) more (frames.map (·.resolved)) (step defaultLimit buffer) := by
  generalize whole : buffer ++ more = stream at h
  cases h with
  | quiet quiet =>
    rw [← whole, List.mem_append, not_or] at quiet
    rw [step_of_notMem quiet.1]
    exact .wait ⟨[], rfl, .quiet quiet.2⟩
  | @frame noise rest frame frames quiet later =>
    rcases List.append_eq_append_iff.1 whole with ⟨left, rfl, rfl⟩ | ⟨part, rfl, tail⟩
    · -- The buffer ends in the noise.
      rw [List.mem_append, not_or] at quiet
      rw [step_of_notMem quiet.1]
      exact .wait ⟨_, rfl, .frame quiet.2 later⟩
    · rw [step_append_of_notMem part quiet]
      rcases List.append_eq_append_iff.1 tail with ⟨after, rfl, rfl⟩ | ⟨lacking, split, rfl⟩
      · rw [frame.step_wire_append]
        exact .unit ⟨_, rfl, later⟩
      · cases lacking with
        | nil =>
          rw [List.append_nil] at split
          have cut := frame.step_wire_append defaultLimit []
          rw [List.append_nil, split] at cut
          rw [cut]
          exact .unit ⟨_, rfl, later⟩
        | cons b lacking =>
          rw [frame.step_of_part split (List.cons_ne_nil _ _)]
          refine .wait ⟨frame :: frames, rfl, ?_⟩
          rw [← List.append_assoc, ← split]
          have silent : opening ∉ ([] : Bytes) := List.not_mem_nil
          exact .frame silent later

theorem Carries.finish {frames : List Frame} {buffer rest : Bytes} (h : Carries frames buffer)
    (waits : step defaultLimit buffer = .wait rest) : frames = [] ∧ rest = [] := by
  cases h with
  | quiet quiet =>
    rw [step_of_notMem quiet] at waits
    cases waits
    exact ⟨rfl, rfl⟩
  | @frame noise rest frame frames quiet later =>
    rw [step_append_of_notMem _ quiet, frame.step_wire_append] at waits
    cases waits

theorem delivers_frames : (framing defaultLimit).Delivers fun units stream =>
    ∃ frames, units = frames.map (·.resolved) ∧ Carries frames stream where
  onward := by
    rintro units buffer more ⟨frames, rfl, h⟩
    exact h.onward
  finish := by
    rintro units buffer rest ⟨frames, rfl, h⟩ waits
    obtain ⟨rfl, rfl⟩ := h.finish waits
    exact ⟨rfl, rfl⟩

/-- However a stream of frames is divided, it never fails, all frames arrive in order and nothing
else, each with its content as it was before it was written, and no octet is left. -/
theorem feedAll_of_frames {frames : List Frame} {chunks : List Bytes}
    (h : Carries frames chunks.flatten) :
    (framing defaultLimit).feedAll [] chunks = ⟨frames.map (·.resolved), [], none⟩ :=
  Framing.feedAll_of_carries delivers_frames ⟨frames, rfl, h⟩

/-- A frame without an index, with each of the octets that have a meaning in a frame as a pair. -/
def sampleImage : Frame where
  first := 51
  second := 71
  deviceId := "861000001".toUTF8.toList
  index := none
  digits := "0006".toUTF8.toList
  content := [0x7D, 0x5B, 0x5D, 0x2C, 0x2A, 0]
  body := [0x7D, 1, 0x7D, 2, 0x7D, 3, 0x7D, 4, 0x7D, 5, 0]
  deviceId_ne_nil := by decide +kernel
  star_notMem_deviceId := by decide +kernel
  star_notMem_index := by simp
  content_le := by decide
  digits_write := by
    have written : "0006".toUTF8.toList = [48, 48, 48, 54] := by decide +kernel
    rw [written]
    exact .cons (by decide) (.cons (by decide) (.cons (by decide) (.cons (by decide) .nil)))
  body_writes := .pair (by decide) (.pair (by decide) (.pair (by decide) (.pair (by decide)
    (.pair (by decide) (.plain (by decide) .nil)))))
  head_le := by decide +kernel

/-- A frame with an index of four digits and a comma as it is. -/
def sampleReport : Frame where
  first := 83
  second := 71
  deviceId := [49]
  index := some "000A".toUTF8.toList
  digits := [48, 48, 48, 51]
  content := [76, 75, 44]
  body := [76, 75, 44]
  deviceId_ne_nil := by decide
  star_notMem_deviceId := by decide
  star_notMem_index := by decide +kernel
  content_le := by decide
  digits_write := .cons (by decide) (.cons (by decide) (.cons (by decide) (.cons (by decide) .nil)))
  body_writes := .plain (by decide) (.plain (by decide) (.plain (by decide) .nil))
  head_le := by decide +kernel

/-- The two frames with noise around them, divided inside of a header, inside of a pair and after
the four digits of the index. -/
def sampleDivision : List Bytes :=
  ["]x[3".toUTF8.toList, "G*861000001*0006*".toUTF8.toList ++ [0x7D, 1, 0x7D],
    [2, 0x7D, 3, 0x7D, 4, 0x7D, 5, 0, 93] ++ "**[SG*1*000A".toUTF8.toList,
    "*0003*LK,]".toUTF8.toList, [13, 10]]

theorem feedAll_sampleDivision :
    (framing defaultLimit).feedAll [] sampleDivision =
      ⟨["[3G*861000001*0006*".toUTF8.toList ++ [0x7D, 0x5B, 0x5D, 0x2C, 0x2A, 0, 93],
        "[SG*1*000A*0003*LK,]".toUTF8.toList], [], none⟩ := by
  have whole : sampleDivision.flatten =
      [93, 120] ++ (sampleImage.wire ++ ([42, 42] ++ (sampleReport.wire ++ [13, 10]))) := by
    decide +kernel
  have carried : Carries [sampleImage, sampleReport] sampleDivision.flatten := by
    rw [whole]
    exact .frame (by decide) (.frame (by decide) (.quiet (by decide)))
  rw [feedAll_of_frames carried]
  decide +kernel

end Watch
end TrackerGateway
