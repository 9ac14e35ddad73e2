import TrackerGateway.Proofs.Watch.Attachment
import TrackerGateway.Proofs.Watch.Report

/-!
# Reports in frames, from the watch to its position

Whatever a watch that the directory knows enters into a report, of whichever type, makes exactly one
position, which tells it (`tells_of_report`).
-/

namespace TrackerGateway.Watch

namespace Report

/-- The types of reports. -/
def types : List String := ["UD", "UD2", "UD3", "AL", "WT"]

/-- The content of a frame with a report. -/
def Entries.content (e : Entries) (type : String) : Bytes :=
  Utf8.encode type ++ comma :: Utf8.encode e.text

/-- No type of a report has a comma, and none of them begins like a length. -/
theorem clear_of_mem_types {type : String} (known : type ∈ types) :
    comma ∉ Utf8.encode type ∧
      ∃ first second rest, Utf8.encode type = first :: second :: rest ∧
        (Hex.isDigitByte first && Hex.isDigitByte second) = false := by
  have all : ∀ type ∈ types, comma ∉ Utf8.encode type ∧
      ((Utf8.encode type).take 2).length = 2 ∧ ((Utf8.encode type).take 2).all Hex.isDigitByte =
          false := by
    decide +kernel
  obtain ⟨clear, two, noDigits⟩ := all type known
  refine ⟨clear, ?_⟩
  match shape : Utf8.encode type with
  | [] => simp [shape] at two
  | [_] => simp [shape] at two
  | first :: second :: rest => exact ⟨first, second, rest, rfl, by simpa [shape] using noDigits⟩

theorem Entries.ofContent_content (e : Entries) {type : String} (known : type ∈ types) :
    Message.ofContent (e.content type) = ⟨type, Utf8.encode e.text⟩ := by
  rw [content, Message.ofContent, Bytes.cut?_of_notMem _ (clear_of_mem_types known).1]
  simp only [Utf8.decodeLossy_encode]

/-- No report is taken for a length. -/
theorem Entries.startsWithLength_content (e : Entries) {type : String} (known : type ∈ types) :
    Header.startsWithLength (e.content type) = false := by
  obtain ⟨-, first, second, rest, shape, noDigits⟩ := clear_of_mem_types known
  rw [content, shape, Header.startsWithLength, List.cons_append, List.cons_append,
    List.take_succ_cons,
    List.take_succ_cons, List.all_cons, List.all_cons, ← Bool.and_assoc (Hex.isDigitByte first),
    noDigits, Bool.false_and, Bool.and_false]

/-- The device of a position does not change what it tells. -/
theorem Entries.Tells.withDevice {e : Entries} {p : Position} (tells : e.Tells p)
    (device : DeviceId) : e.Tells { p with deviceId := device } :=
  { tells with }

end Report

open Report

namespace Peer

variable {δ μ : Type} [MediaStore μ]

/-- What a message of the type of a report makes. -/
theorem interpret_of_report {m : Message} (known : m.type ∈ Report.types) (services : Services δ μ)
    (receivedAt : Instant) (uniqueId : String) (device : DeviceId) :
    (interpret services receivedAt uniqueId device m).1 =
      .ok ((Report.position? m.text).map fun p => { p with deviceId := device }) := by
  have kind : ∀ type ∈ Report.types, MessageKind.ofType type = .report ∨
      MessageKind.ofType type = .alarm := by
    decide +kernel
  rw [interpret, Message.kind]
  obtain report | alarm := kind m.type known
  · rw [report]
  · rw [alarm]

/-- A report makes a position that tells it. -/
theorem exists_interpret_report {type : String} (known : type ∈ Report.types) (e : Report.Entries)
    (services : Services δ μ) (receivedAt : Instant) (uniqueId : String) (device : DeviceId) :
    ∃ p, (interpret services receivedAt uniqueId device ⟨type, Utf8.encode e.text⟩).1 =
      .ok (some p) ∧ e.Tells p ∧ p.deviceId = device := by
  obtain ⟨p, told, tells⟩ := e.tells_position?
  have text : (Message.mk type (Utf8.encode e.text)).text = e.text := by
    rw [Message.text, Utf8.decodeLossy_encode]
  refine ⟨{ p with deviceId := device }, ?_, tells.withDevice device, rfl⟩
  rw [interpret_of_report known, text, told]
  rfl

variable [Directory δ]

/-- A report of a watch that the directory knows makes exactly one position, which tells what the
watch has entered. -/
theorem tells_of_report {f : Frame.Fields} (legible : f.Legible) {type : String}
    (known : type ∈ Report.types) (e : Report.Entries) (content : f.content = e.content type)
    (peer : Peer) {services : Services δ μ}
    (knows : Directory.Knows services.directory (Utf8.decodeLossy f.deviceId))
    (connection : ConnectionId) (receivedAt : Instant) :
    ∃ p, (peer.decode services connection receivedAt f.resolved).1 = .ok [p] ∧ e.Tells p := by
  have scanned : Header.scan f.resolved = .complete f.header := by
    apply legible.scan_resolved
    intro _
    rw [content]
    exact e.startsWithLength_content known
  have message : Message.ofFrame f.header f.resolved = ⟨type, Utf8.encode e.text⟩ := by
    rw [Message.ofFrame, f.contentOf_resolved, content, e.ofContent_content known]
  have resolves : services.Resolves connection f.header.deviceId :=
    Services.resolves_of_knows knows connection
  obtain ⟨session, after, resolved⟩ := resolves.exists_eq
  obtain ⟨p, told, tells, -⟩ := exists_interpret_report known e
    (answer after f.header ⟨type, Utf8.encode e.text⟩) receivedAt f.header.deviceId session.deviceId
  refine ⟨p, ?_, tells⟩
  simp only [decode_of_session scanned resolved, message, told]
  rfl

end Peer

/-! ### A report -/

/-- The entries of a watch in the south-west with one cell around it. -/
def Report.sampleEntries : Report.Entries where
  date := ⟨2020, 2, 29⟩
  hour := 13
  minute := 46
  second := 52
  valid := true
  latitude := .withFraction (.ofText "22" (by decide +kernel) (by decide +kernel)) "571707"
    (by decide +kernel)
  south := true
  longitude := .withFraction (.ofText "43" (by decide +kernel) (by decide +kernel)) "8613968"
    (by decide +kernel)
  west := true
  speed :=
    .withFraction (.ofText "0" (by decide +kernel) (by decide +kernel)) "1" (by decide +kernel)
  course := ⟨.ofText "0" (by decide +kernel) (by decide +kernel), none, by simp⟩
  altitude :=
    .withFraction (.ofText "5" (by decide +kernel) (by decide +kernel)) "" (by decide +kernel)
  below := true
  satellites := .ofText "7" (by decide +kernel) (by decide +kernel)
  signal := .ofText "060" (by decide +kernel) (by decide +kernel)
  battery := .ofText "90" (by decide +kernel) (by decide +kernel)
  steps := .ofText "2147483647" (by decide +kernel) (by decide +kernel)
  tumbles := .ofText "99999999999999999999" (by decide +kernel) (by decide +kernel)
  status := .ofText "0001001a" (by decide +kernel) (by decide +kernel)
  block := "1,1,460,0,9360,4082,131"
  isReal := by decide
  year_mem := by decide
  hour_lt := by decide
  minute_lt := by decide
  second_lt := by decide
  latitude_hasFraction := ⟨_, rfl, by decide +kernel⟩
  longitude_hasFraction := ⟨_, rfl, by decide +kernel⟩
  satellites_lt := by decide +kernel
  signal_lt := by decide +kernel
  battery_lt := by decide +kernel
  steps_lt := by decide +kernel
  status_lt := by decide +kernel

/-- The report of a watch in motion that calls for help. -/
theorem Peer.tells_of_sampleReport :
    let f := Frame.Fields.plain 51 71 [56] none (Report.sampleEntries.content "UD2")
    Report.sampleEntries.text =
      "290220,134652,A,22.571707,S,43.8613968,W,0.1,0,-5.,7,060,90,2147483647," ++
        "99999999999999999999,0001001a,1,1,460,0,9360,4082,131" ∧
      f.Legible ∧ "UD2" ∈ Report.types ∧
      Directory.Knows sampleServices.directory (Utf8.decodeLossy f.deviceId) ∧
      ∃ p, (unknown.decode sampleServices ⟨0⟩ ⟨0, 0⟩ f.resolved).1 = .ok [p] ∧
        Report.sampleEntries.Tells p := by
  intro f
  have legible : f.Legible :=
    Frame.Fields.legible_plain (by decide) (by decide) (by simp) (by decide +kernel)
  have knows : Directory.Knows sampleServices.directory (Utf8.decodeLossy f.deviceId) := ⟨_, rfl⟩
  refine ⟨by decide +kernel, legible, by decide +kernel, knows, ?_⟩
  exact tells_of_report legible (by decide +kernel) _ rfl unknown knows ⟨0⟩ ⟨0, 0⟩

end TrackerGateway.Watch
