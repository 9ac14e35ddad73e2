import TrackerGateway.Proofs.Watch.Datagram
import TrackerGateway.Proofs.Watch.Device
import TrackerGateway.Proofs.Watch.Writing

/-!
# Commands that are read back

A command is written as a frame with the manufacturer and the identifier that the watch has shown.
A watch that cuts its stream as the gateway does finds the content as it was given exactly if no
mark in it has a code behind it and it cannot be taken for a length (`reread_of_heard`). Commands
are text, and nothing in them is written as a pair.
-/

namespace TrackerGateway.Watch

/-! ### Streams of one frame -/

/-- Whether a stream is cut into one frame with nothing left, however it is divided. -/
def CutsInto (stream frame : Bytes) : Prop :=
  ∀ chunks : List Bytes, chunks.flatten = stream →
    (framing defaultLimit).feedAll [] chunks = ⟨[frame], [], none⟩

theorem CutsInto.exists_step {stream frame : Bytes} (alone : CutsInto stream frame) :
    ∃ rest, step defaultLimit stream = .unit frame rest := by
  have fed := alone [stream] (by simp)
  rw [Framing.feedAll_singleton, List.nil_append] at fed
  cases cut : (framing defaultLimit).step stream with
  | unit unit rest =>
    rw [Framing.drain_of_unit cut, Framing.Drained.mk.injEq, List.cons.injEq] at fed
    obtain ⟨⟨rfl, -⟩, -⟩ := fed
    exact ⟨rest, cut⟩
  | wait rest =>
    rw [Framing.drain_of_wait cut] at fed
    cases fed
  | failed error rest =>
    rw [Framing.drain_of_failed cut] at fed
    cases fed

theorem prompt_of_alone {limit : Nat} {stream unit : Bytes} {header : Header}
    (scanned : Header.scan stream = .complete header)
    (told : Header.read (stream.take Header.patience) ≠ .incomplete)
    (cut : step limit stream = .unit unit []) : Prompt limit stream := by
  intro place met
  cases met with
  | front h =>
    rw [skipNoise_of_complete scanned] at h
    cases h
    exact told
  | later h met =>
    -- Nothing is left in which a header could stand.
    rw [cut] at h
    cases h
    obtain ⟨⟨header, found⟩, short⟩ := met.scan
    rw [List.eq_nil_of_length_eq_zero (Nat.le_zero.1 short)] at found
    cases found

theorem drain_of_alone {limit : Nat} {stream unit : Bytes}
    (cut : step limit stream = .unit unit []) :
    (framing limit).drain stream = ⟨[unit], [], none⟩ := by
  rw [Framing.drain_of_unit cut, Framing.drain_of_wait (step_nil limit)]

namespace Frame.Fields.Legible

variable {f : Fields} (legible : f.Legible)

include legible

theorem step_resolved (told : f.index = none → Header.startsWithLength f.content = false)
    (limit : Nat) : step limit f.resolved =
      cutFrame limit f.content.length f.head (f.content ++ [closing]) := by
  have front := skipNoise_of_complete (legible.scan_resolved told)
  rw [step_of_header front, header_length, header_contentStart, resolved, List.append_assoc,
    List.take_left, List.drop_left]

/-- A frame whose content stands in it as it is, is cut out whole if nothing in it is a pair. -/
theorem step_of_unpaired (told : f.index = none → Header.startsWithLength f.content = false)
    (plain : unescape f.content = f.content) (limit : Nat) :
    step limit f.resolved = .unit f.resolved [] := by
  have taken := takeResolved_of_unpaired plain [] []
  rw [legible.step_resolved told, cutFrame, taken]
  rfl

/-- With a pair in its content a frame declares more than it has, and cutting waits for the rest. -/
theorem unpaired_of_step (told : f.index = none → Header.startsWithLength f.content = false)
    {limit : Nat} {unit rest : Bytes} (cut : step limit f.resolved = .unit unit rest) :
    unescape f.content = f.content := by
  rw [legible.step_resolved told, cutFrame] at cut
  split at cut
  · exact absurd cut pause_ne_unit
  · exact absurd cut pause_ne_unit
  · rename_i content octet after taken
    obtain ⟨length, used, split, enough⟩ := length_of_takeResolved taken
    have whole := unescape_of_takeResolved taken
    have lengths := congrArg List.length split
    simp only [List.length_append, List.length_cons, List.length_nil] at length lengths
    obtain rfl : after = [] := List.eq_nil_of_length_eq_zero (by omega)
    have single : unescape [octet] = [octet] := rfl
    rw [List.reverse_nil, List.nil_append, single] at whole
    have closed : unescape (f.content ++ [closing]) = f.content ++ [closing] := by
      apply unescape_eq_of_length
      rw [whole, List.length_append, List.length_append, length, Nat.zero_add]
      rfl
    exact unescape_eq_of_append closed

/-- A header of a frame is told in time if there is room for it, and for the octets after it where
it has no index. -/
theorem cutsInto_resolved (told : f.index = none → Header.startsWithLength f.content = false)
    (plain : unescape f.content = f.content) (short : f.head.length ≤ Header.patience)
    (soon : f.index = none → f.head.length + 5 ≤ Header.patience) :
    CutsInto f.resolved f.resolved := by
  have cut := legible.step_of_unpaired told plain defaultLimit
  have scanned := legible.scan_resolved told
  have inTime : Header.read (f.resolved.take Header.patience) ≠ .incomplete := by
    by_cases fits : f.resolved.length ≤ Header.patience
    · rw [List.take_of_length_le fits, Header.scan_eq_complete.1 scanned]
      simp
    · rw [resolved, List.append_assoc, List.take_append, List.take_of_length_le short]
      cases index : f.index with
      | some field =>
        rw [legible.read_head_append, index]
        simp
      | none =>
        have soon := soon index
        apply legible.read_ne_incomplete
        rw [resolved, List.append_assoc, List.length_append] at fits
        rw [List.length_take]
        omega
  have within : f.resolved.length ≤ defaultLimit := by
    have small := legible.content_le
    simp only [resolved, List.length_append, List.length_singleton, defaultLimit]
    simp only [Header.patience] at short
    omega
  intro chunks whole
  rw [feedAll_eq_drain_of_prompt, whole, drain_of_alone cut]
  · rw [whole]
    exact prompt_of_alone scanned inTime cut
  · rwa [whole]

end Frame.Fields.Legible

/-- A frame that is read without index has no content that can be taken for a length. -/
theorem not_startsWithLength_of_reads {frame content : Bytes} {manufacturer deviceId : String}
    (reads : Reads frame manufacturer deviceId none content) :
    Header.startsWithLength content = false := by
  obtain ⟨start, scanned, rest⟩ := reads
  obtain ⟨first, second, octets, field, after, rfl, -, -, -, fields⟩ :=
    Header.exists_fields_of_read (Header.scan_eq_complete.1 scanned)
  rcases Header.scanLength_eq_complete fields with ⟨-, -, made⟩ | made
  · have index := congrArg Header.index (Header.ofFields_eq_complete.1 made).2
    cases index
  · have place := congrArg Header.contentStart (Header.ofFields_eq_complete.1 made).2
    have behind : after = content ++ [closing] := by
      rw [← rest]
      simp only [Option.map_none, Option.getD_none] at place
      have shape : opening :: first :: second :: star ::
          (octets ++ star :: (field ++ star :: after)) =
          (opening :: first :: second :: star :: (octets ++ star :: (field ++ [star]))) ++
              after := by
        simp
      have length : start = (opening :: first :: second :: star ::
          (octets ++ star :: (field ++ [star]))).length := by
        rw [place]
        simp
        omega
      rw [shape, length, List.drop_left]
    rw [behind, Header.scanLength_closing] at fields
    by_cases disguised : Header.startsWithLength content = true
    · rw [if_pos disguised] at fields
      have index := congrArg Header.index (Header.ofFields_eq_complete.1 fields).2
      cases index
    · exact Bool.eq_false_iff.2 disguised

/-- Four digits do not write a greater length. -/
theorem Header.lengthOf_le {field : Bytes} (digits : isLength field = true) :
    lengthOf field ≤ 65535 := by
  have below (b : UInt8) : (Hex.value? (Char.ofNat b.toNat)).getD 0 < 16 := by
    have all : ∀ n < 256, (Hex.value? (Char.ofNat n)).getD 0 < 16 := by decide +kernel
    exact all b.toNat b.toNat_lt
  rw [isLength, Bool.and_eq_true, beq_iff_eq] at digits
  obtain ⟨a, b, c, d, rfl⟩ := List.length_eq_four.1 digits.1
  have ha := below a
  have hb := below b
  have hc := below c
  have hd := below d
  simp only [lengthOf, List.foldl_cons, List.foldl_nil]
  omega

theorem length_le_of_reads {frame content : Bytes} {manufacturer deviceId : String}
    {index : Option String} (reads : Reads frame manufacturer deviceId index content) :
    content.length ≤ 65535 := by
  obtain ⟨start, scanned, -⟩ := reads
  obtain ⟨first, second, deviceId, field, found⟩ := Header.exists_readFrom scanned
  obtain ⟨digits, written, length⟩ := found.length_eq
  exact length.trans_le (Header.lengthOf_le written)

/-! ### The watch at the other end -/

namespace Peer

/-- The index in what is written to a watch. -/
def index? (peer : Peer) : Option String := if peer.hasIndex then some commandIndex else none

/-- Whether a stream is read back as one frame to the watch with this content. -/
def Rereads (peer : Peer) (content stream : Bytes) : Prop :=
  ∃ frame deviceId, peer.deviceId = some deviceId ∧ CutsInto stream frame ∧
    Reads frame peer.manufacturer deviceId peer.index? content

/-- Whether a watch has shown what a command to it is addressed with, in a header that is told in
time. -/
structure Addressed (peer : Peer) : Prop where
  manufacturer : ∃ first second, Utf8.encode peer.manufacturer = [first, second]
  deviceId : ∃ id, peer.deviceId = some id ∧ Utf8.encode id ≠ [] ∧ star ∉ Utf8.encode id ∧
    (Utf8.encode id).length ≤ 46

theorem index?_eq_none_iff {peer : Peer} : peer.index? = none ↔ peer.hasIndex = false := by
  unfold index?
  cases peer.hasIndex <;> simp

theorem star_notMem_index? (peer : Peer) : ∀ text ∈ peer.index?, star ∉ Utf8.encode text := by
  have clear : star ∉ Utf8.encode commandIndex := by decide +kernel
  intro text member
  unfold index? at member
  split at member
  · cases member
    exact clear
  · cases member

theorem length_head_plain (peer : Peer) (first second : UInt8) (deviceId content : Bytes) :
    (Frame.Fields.plain first second deviceId (peer.index?.map Utf8.encode) content).head.length =
      10 + deviceId.length + if peer.hasIndex then 5 else 0 := by
  have index : (Utf8.encode commandIndex).length = 4 := by decide +kernel
  have digits : ((places content.length).map Hex.octet).length = 4 := rfl
  rw [Frame.Fields.length_head]
  simp only [Frame.Fields.plain, index?, digits]
  cases peer.hasIndex with
  | false => simp; omega
  | true => simp [index]; omega

theorem encode_eq {peer : Peer} {c : Command} {id content : String}
    (known : peer.deviceId = some id) (given : Peer.content c = .ok content) : peer.encode c =
      .ok (Utf8.encode (frameText peer.manufacturer id peer.index? content)) := by
  simp only [encode, given, addressee, known]
  rfl

/-- A command to a watch that has shown itself is read back exactly if no mark in its content has
a code behind it and, where the watch has no index, the content does not begin like a length. -/
theorem rereads_iff {peer : Peer} (addressed : peer.Addressed) {c : Command} {content : String}
    (given : Peer.content c = .ok content) (small : (Utf8.encode content).length ≤ 65535)
    {stream : Bytes} (encoded : peer.encode c = .ok stream) :
    peer.Rereads (Utf8.encode content) stream ↔
      unescape (Utf8.encode content) = Utf8.encode content ∧
        (peer.hasIndex = false → Header.startsWithLength (Utf8.encode content) = false) := by
  obtain ⟨first, second, two⟩ := addressed.manufacturer
  obtain ⟨id, known, named, ends, short⟩ := addressed.deviceId
  have indexEnds := peer.star_notMem_index?
  rw [encode_eq known given, Except.ok.injEq] at encoded
  subst encoded
  let f := Frame.Fields.plain first second (Utf8.encode id) (peer.index?.map Utf8.encode)
    (Utf8.encode content)
  have written : Utf8.encode (frameText peer.manufacturer id peer.index? content) = f.resolved :=
    encode_frameText id peer.index? two small
  have octetsEnd : ∀ field ∈ f.index, star ∉ field := by
    intro field member
    obtain ⟨text, found, rfl⟩ := Option.map_eq_some_iff.1 member
    exact indexEnds text found
  have legible : f.Legible := Frame.Fields.legible_plain named ends octetsEnd small
  have unindexed : f.index = none ↔ peer.hasIndex = false := by
    rw [← index?_eq_none_iff]
    exact Option.map_eq_none_iff
  constructor
  · rintro ⟨frame, deviceId, known', alone, reads⟩
    have told : peer.hasIndex = false → Header.startsWithLength (Utf8.encode content) = false := by
      intro missing
      rw [index?_eq_none_iff.2 missing] at reads
      exact not_startsWithLength_of_reads reads
    obtain ⟨rest, cut⟩ := alone.exists_step
    rw [written] at cut
    exact ⟨legible.unpaired_of_step (fun missing => told (unindexed.1 missing)) cut, told⟩
  · rintro ⟨plain, told⟩
    have told' : f.index = none → Header.startsWithLength f.content = false :=
      fun missing => told (unindexed.1 missing)
    have room : f.head.length = 10 + (Utf8.encode id).length + if peer.hasIndex then 5 else 0 :=
      peer.length_head_plain _ _ _ _
    refine ⟨f.resolved, id, known, ?_, ?_⟩
    · rw [written]
      apply legible.cutsInto_resolved told' plain
      · rw [room, Header.patience]
        split <;> omega
      · intro missing
        rw [room, unindexed.1 missing, Header.patience]
        simp only [Bool.false_eq_true, if_false]
        omega
    · rw [← written]
      exact reads_frameText two named ends indexEnds small fun missing =>
        told (index?_eq_none_iff.1 missing)

end Peer

/-! ### What a watch has shown -/

/-- Whether the octets of a header are of ASCII and few enough to be told in time. -/
def Header.Modest (header : Header) (frame : Bytes) : Prop :=
  (∀ octet ∈ frame.take header.contentStart, octet < 0x80) ∧ header.contentStart ≤ 56

theorem Header.Modest.encode_eq {header : Header} {frame : Bytes} (modest : header.Modest frame)
    (scanned : Header.scan frame = .complete header) :
    (∃ first second, Utf8.encode header.manufacturer = [first, second]) ∧
      Utf8.encode header.deviceId ≠ [] ∧ star ∉ Utf8.encode header.deviceId ∧
        (Utf8.encode header.deviceId).length ≤ 46 := by
  obtain ⟨ascii, short⟩ := modest
  obtain ⟨first, second, deviceId, index, found⟩ := Header.exists_readFrom scanned
  obtain ⟨rest, whole⟩ := found.front
  have start := found.start
  have front : frame.take header.contentStart =
      (opening :: first :: second :: star :: deviceId) ++
        (star :: rest).take (header.contentStart - (deviceId.length + 4)) := by
    have split : frame = (opening :: first :: second :: star :: deviceId) ++ star :: rest := by
      rw [whole]
      simp
    rw [split, List.take_append, List.take_of_length_le (by simp only [List.length_cons]; omega)]
    rfl
  rw [front] at ascii
  have maker : Utf8.Valid [first, second] := by
    apply Utf8.valid_of_ascii
    intro octet member
    apply ascii octet
    simp only [List.mem_cons, List.not_mem_nil, or_false] at member
    rcases member with rfl | rfl <;> simp
  have named : Utf8.Valid deviceId := by
    apply Utf8.valid_of_ascii
    intro octet member
    apply ascii octet
    simp [member]
  obtain ⟨manufacturer, identifier⟩ := found.encode_eq maker named
  rw [identifier]
  refine ⟨⟨first, second, manufacturer⟩, found.named, found.deviceEnds, ?_⟩
  omega

variable {δ μ : Type} [Directory δ] [MediaStore μ]

/-- A frame and the services at the time when it came. -/
structure Occasion (δ μ : Type) where
  services : Services δ μ
  connection : ConnectionId
  receivedAt : Instant
  frame : Bytes

/-- Whether the frame, if it has a header, has one of ASCII that is told in time. -/
def Occasion.Modest (o : Occasion δ μ) : Prop :=
  ∀ header, Header.scan o.frame = .complete header → header.Modest o.frame

namespace Peer

/-- The watch once a frame was decoded. -/
def hear (peer : Peer) (o : Occasion δ μ) : Peer :=
  (peer.decode o.services o.connection o.receivedAt o.frame).2.1

theorem addressed_of_identified {peer : Peer} {header : Header} {frame : Bytes}
    (modest : header.Modest frame) (scanned : Header.scan frame = .complete header) :
    ((peer.heard header).identified header).Addressed := by
  obtain ⟨manufacturer, named, ends, short⟩ := modest.encode_eq scanned
  exact ⟨manufacturer, header.deviceId, rfl, named, ends, short⟩

theorem addressed_hear_of_resolves (peer : Peer) {o : Occasion δ μ} {header : Header}
    (scanned : Header.scan o.frame = .complete header) (modest : header.Modest o.frame)
    (resolves : o.services.Resolves o.connection header.deviceId) : (peer.hear o).Addressed := by
  obtain ⟨session, after, resolved⟩ := resolves.exists_eq
  rw [hear, decode_of_session scanned resolved]
  exact addressed_of_identified modest scanned

/-- A watch that has shown itself has done so after every further frame, whether its device is
known or not. -/
theorem Addressed.hear {peer : Peer} (addressed : peer.Addressed) {o : Occasion δ μ}
    (modest : o.Modest) : (peer.hear o).Addressed := by
  cases scanned : Header.scan o.frame with
  | complete header =>
    by_cases resolves : o.services.Resolves o.connection header.deviceId
    · exact peer.addressed_hear_of_resolves scanned (modest header scanned) resolves
    · rw [Peer.hear, decode_of_no_session scanned (not_exists.1 resolves)]
      exact ⟨((modest header scanned).encode_eq scanned).1, addressed.deviceId⟩
  | incomplete | invalid =>
    rw [Peer.hear, Peer.decode, Header.scan?, scanned]
    exact addressed

theorem Addressed.hearAll {peer : Peer} (addressed : peer.Addressed) {later : List (Occasion δ μ)}
    (modest : ∀ o ∈ later, o.Modest) : (later.foldl Peer.hear peer).Addressed := by
  induction later generalizing peer with
  | nil => exact addressed
  | cons o later ih =>
    rw [List.foldl_cons]
    apply ih
    · exact addressed.hear (modest o List.mem_cons_self)
    · exact fun other member => modest other (List.mem_cons_of_mem _ member)

/-- Whatever was decoded before, once a frame of a known device was decoded, and however many
frames after it: a command that can be written has a content, and is read back by what reads such
frames exactly if that content has no pair in it and, unless the watch has used an index, does not
begin like a length. -/
theorem reread_of_heard (peer : Peer) {o : Occasion δ μ} {header : Header}
    (scanned : Header.scan o.frame = .complete header) (modest : header.Modest o.frame)
    (resolves : o.services.Resolves o.connection header.deviceId) {later : List (Occasion δ μ)}
    (modestLater : ∀ o ∈ later, o.Modest) {c : Command} {stream : Bytes}
    (encoded : (later.foldl hear (peer.hear o)).encode c = .ok stream) :
    ∃ content, Peer.content c = .ok content ∧
      ((Utf8.encode content).length ≤ 65535 →
        ((later.foldl hear (peer.hear o)).Rereads (Utf8.encode content) stream ↔
          unescape (Utf8.encode content) = Utf8.encode content ∧
            ((later.foldl hear (peer.hear o)).hasIndex = false →
              Header.startsWithLength (Utf8.encode content) = false))) := by
  have addressed := (peer.addressed_hear_of_resolves scanned modest resolves).hearAll modestLater
  cases given : Peer.content c with
  | error fault =>
    rw [encode, given] at encoded
    cases encoded
  | ok content => exact ⟨content, rfl, fun small => rereads_iff addressed given small encoded⟩

/-- A frame that comes while the directory knows every watch. -/
def sampleOccasion (frame : String) : Occasion (String → Lookup) MediaLibrary :=
  ⟨sampleServices, ⟨0⟩, ⟨0, 0⟩, frame.toUTF8.toList⟩

/-- A command with data of its own. -/
def sampleCommand (data : String) : Command := ⟨⟨42⟩, .custom, [("data", .text data)]⟩

theorem content_sampleCommand (data : String) :
    Peer.content (sampleCommand data) = .ok data := rfl

/-- Brackets, asterisks and a mark with no code behind it are read back, here by a watch with an
index whose identifier has brackets. -/
theorem reread_of_sampleCommand :
    let peer := (unknown.hear (sampleOccasion "[3G*8[6]1*0002*LK]")).hear
      (sampleOccasion "[SG*8[6]1*00AF*0002*LK]")
    ∃ stream, peer.encode (sampleCommand "0002*a]*[\x7d") = .ok stream ∧
      peer.Rereads (Utf8.encode "0002*a]*[\x7d") stream := by
  intro peer
  have known : peer.deviceId = some "8[6]1" := by decide +kernel
  have indexed : peer.hasIndex = true := by decide +kernel
  have encoded := encode_eq known (content_sampleCommand "0002*a]*[\x7d")
  have scanned : Header.scan (sampleOccasion "[3G*8[6]1*0002*LK]").frame =
      .complete ⟨"3G", "8[6]1", none, 2, 15⟩ := by
    decide +kernel
  have scannedLater : Header.scan (sampleOccasion "[SG*8[6]1*00AF*0002*LK]").frame =
      .complete ⟨"SG", "8[6]1", some "00AF", 2, 20⟩ := by
    decide +kernel
  have modestLater : ∀ o ∈ [sampleOccasion "[SG*8[6]1*00AF*0002*LK]"], o.Modest := by
    intro o member header found
    rw [List.mem_singleton.1 member] at found ⊢
    rw [scannedLater] at found
    cases found
    exact ⟨by decide +kernel, by decide⟩
  obtain ⟨content, given, reread⟩ := reread_of_heard unknown scanned
    ⟨by decide +kernel, by decide⟩ ⟨_, rfl⟩ modestLater encoded
  rw [content_sampleCommand] at given
  cases given
  refine ⟨_, encoded, (reread (by decide +kernel)).2 ⟨by decide +kernel, ?_⟩⟩
  intro missing
  rw [List.foldl_cons, List.foldl_nil, indexed] at missing
  cases missing

/-- Data with a pair are not read back, nor are data like a length to a watch without index, nor
more data than a length tells. -/
theorem not_reread_of_heard :
    let o := sampleOccasion "[3G*1*0002*LK]"
    let peer := unknown.hear o
    (∃ header, Header.scan o.frame = .complete header ∧ header.Modest o.frame ∧
      o.services.Resolves o.connection header.deviceId) ∧
      ∀ data ∈ ["\x7d\x01", "0002*LK", String.ofList (List.replicate 65536 'a')],
        Peer.content (sampleCommand data) = .ok data ∧
          ∃ stream, peer.encode (sampleCommand data) = .ok stream ∧
            ¬ peer.Rereads (Utf8.encode data) stream := by
  intro o peer
  have scanned : Header.scan o.frame = .complete ⟨"3G", "1", none, 2, 11⟩ := by decide +kernel
  have modest : (⟨"3G", "1", none, 2, 11⟩ : Header).Modest o.frame := ⟨by decide +kernel, by decide⟩
  have resolves : o.services.Resolves o.connection "1" := ⟨_, rfl⟩
  have addressed : peer.Addressed := unknown.addressed_hear_of_resolves scanned modest resolves
  have known : peer.deviceId = some "1" := by decide +kernel
  have indexed : peer.hasIndex = false := by decide +kernel
  refine ⟨⟨_, scanned, modest, resolves⟩, ?_⟩
  intro data member
  have given := content_sampleCommand data
  have encoded := encode_eq known given
  refine ⟨given, _, encoded, ?_⟩
  intro reread
  simp only [List.mem_cons, List.not_mem_nil, or_false] at member
  rcases member with rfl | rfl | rfl
  · have plain := ((rereads_iff addressed given (by decide +kernel) encoded).1 reread).1
    revert plain
    decide +kernel
  · have told := ((rereads_iff addressed given (by decide +kernel) encoded).1 reread).2 indexed
    revert told
    decide +kernel
  · obtain ⟨frame, deviceId, -, -, reads⟩ := reread
    have small := length_le_of_reads reads
    have length (count : Nat) :
        (Utf8.encode (String.ofList (List.replicate count 'a'))).length = count := by
      have one : String.utf8EncodeChar 'a' = [97] := by decide
      rw [Utf8.encode, String.toList_ofList, List.flatMap_replicate, one]
      simp
    rw [length] at small
    omega

end Peer

end TrackerGateway.Watch
