import TrackerGateway.Proofs.Watch.Commands

/-!
# What a frame of an unknown watch teaches

The manufacturer and the index are taken from a frame before its device is asked for, the
identifier only once the device is known. So a frame whose device is not found leaves commands
with the identifier that they had, but with the manufacturer of that frame and with its index.
Commands tell watches apart that differ in these (`Peer.encode_eq_iff`), so they stay as they were
exactly if the frame brings nothing new (`Peer.encode_hear_eq_iff`).
-/

namespace TrackerGateway

theorem Utf8.encode_inj {text other : String} : encode text = encode other ↔ text = other := by
  constructor
  · intro same
    rw [← decodeLossy_encode text, same, decodeLossy_encode]
  · exact congrArg encode

namespace Watch

/-! ### Frames with the same content -/

/-- The text of a frame from the asterisk after its manufacturer on. -/
def addressText (deviceId : String) (index : Option String) (content : String) : String :=
  let length := String.ofList (Hex.padded 4 content.utf8ByteSize)
  match index with
  | some index => s!"*{deviceId}*{index}*{length}*{content}]"
  | none => s!"*{deviceId}*{length}*{content}]"

theorem frameText_eq (manufacturer deviceId : String) (index : Option String) (content : String) :
    frameText manufacturer deviceId index content =
      "[" ++ (manufacturer ++ addressText deviceId index content) := by
  cases index <;> simp [frameText, addressText, toString, String.append_assoc]

/-- An index takes its own room and that of its asterisk. -/
theorem length_addressText (deviceId index content : String) :
    (addressText deviceId (some index) content).length =
      (addressText deviceId none content).length + (index.length + 1) := by
  have star : "*".length = 1 := rfl
  simp only [addressText, toString, String.length_append, star]
  omega

/-- Of the same content for the same identifier, frames of one manufacturer or the other are told
apart, as are frames with or without an index that is longer than the manufacturers. -/
theorem frameText_inj {manufacturer other deviceId content : String} {index index' : Option String}
    (given : String) (long : manufacturer.length ≤ given.length ∧ other.length ≤ given.length)
    (same : index = none ∨ index = some given) (same' : index' = none ∨ index' = some given)
    (texts : frameText manufacturer deviceId index content =
      frameText other deviceId index' content) : manufacturer = other ∧ index = index' := by
  rw [frameText_eq, frameText_eq] at texts
  have rest : manufacturer ++ addressText deviceId index content =
      other ++ addressText deviceId index' content := by
    simpa [String.ext_iff] using texts
  have lengths := congrArg String.length rest
  rw [String.length_append, String.length_append] at lengths
  have indexes : index = index' := by
    have room := length_addressText deviceId given content
    rcases same with rfl | rfl <;> rcases same' with rfl | rfl
    · rfl
    · omega
    · omega
    · rfl
  subst indexes
  refine ⟨?_, rfl⟩
  simpa [String.ext_iff] using rest

/-! ### Watches that are told apart -/

/-- A manufacturer is written with at most two characters. -/
theorem Header.length_manufacturer_le {header : Header} {frame : Bytes}
    (scanned : Header.scan frame = .complete header) : header.manufacturer.length ≤ 2 := by
  obtain ⟨first, second, deviceId, index, found⟩ := Header.exists_readFrom scanned
  rw [found.manufacturer_eq]
  exact Utf8.length_decodeLossy_le [first, second]

namespace Peer

/-- A command that any watch can be given. -/
def locate : Command := ⟨.unset, .positionSingle, [("uniqueId", .text "")]⟩

theorem encode_locate (peer : Peer) :
    peer.encode locate = .ok (Utf8.encode
      (frameText peer.manufacturer (peer.deviceId.getD "") peer.index? "CR")) := by
  have given : content locate = .ok "CR" := rfl
  have addressed : peer.addressee locate = .ok (peer.deviceId.getD "") := by
    unfold addressee
    cases peer.deviceId <;> rfl
  simp only [encode, given, addressed]
  rfl

theorem index?_eq (peer : Peer) : peer.index? = none ∨ peer.index? = some commandIndex := by
  unfold index?
  cases peer.hasIndex with
  | true => exact .inr rfl
  | false => exact .inl rfl

theorem index?_inj {peer other : Peer} (same : peer.index? = other.index?) :
    peer.hasIndex = other.hasIndex := by
  have missing : peer.hasIndex = false ↔ other.hasIndex = false := by
    rw [← index?_eq_none_iff, same, index?_eq_none_iff]
  cases here : peer.hasIndex with
  | false => exact (missing.1 here).symm
  | true =>
    cases there : other.hasIndex with
    | false => exact absurd (missing.2 there) (by simp [here])
    | true => rfl

/-- Commands to watches of the same identifier are all the same only if the watches are. -/
theorem encode_eq_iff {peer other : Peer} (short : peer.manufacturer.length ≤ 2)
    (short' : other.manufacturer.length ≤ 2) (device : peer.deviceId = other.deviceId) :
    (∀ c, peer.encode c = other.encode c) ↔ peer = other := by
  constructor
  · intro same
    have texts := same locate
    rw [encode_locate, encode_locate, device, Except.ok.injEq, Utf8.encode_inj] at texts
    have long : commandIndex.length = 4 := rfl
    obtain ⟨manufacturer, index⟩ := frameText_inj commandIndex ⟨by omega, by omega⟩
      peer.index?_eq other.index?_eq texts
    have hasIndex := index?_inj index
    obtain ⟨m, i, d⟩ := peer
    obtain ⟨m', i', d'⟩ := other
    cases manufacturer
    cases hasIndex
    cases device
    rfl
  · rintro rfl c
    rfl

/-! ### Frames of unknown watches -/

variable {δ μ : Type} [Directory δ] [MediaStore μ]

/-- A watch, whatever it has sent, is of a manufacturer with at most two characters. -/
theorem length_manufacturer_hearAll_le {peer : Peer} (short : peer.manufacturer.length ≤ 2)
    (occasions : List (Occasion δ μ)) :
    (occasions.foldl hear peer).manufacturer.length ≤ 2 := by
  induction occasions generalizing peer with
  | nil => exact short
  | cons o occasions ih =>
    apply ih
    cases scanned : Header.scan o.frame with
    | incomplete | invalid =>
      rw [hear, decode, Header.scan?, scanned]
      exact short
    | complete header =>
      have read := Header.length_manufacturer_le scanned
      by_cases resolves : o.services.Resolves o.connection header.deviceId
      · obtain ⟨session, after, resolved⟩ := resolves.exists_eq
        rw [hear, decode_of_session scanned resolved]
        exact read
      · rw [hear, decode_of_no_session scanned (not_exists.1 resolves)]
        exact read

/-- Whatever was sent before: a frame whose device is not known, or cannot be asked for, leaves
the identifier of the watch, but not its manufacturer, nor its index if the frame has one.
Commands stay as they were exactly if the frame has the manufacturer that there was, and no index
unless there was one. -/
theorem encode_hear_eq_iff (before : List (Occasion δ μ)) {o : Occasion δ μ} {header : Header}
    (scanned : Header.scan o.frame = .complete header)
    (unresolved : ¬ o.services.Resolves o.connection header.deviceId) :
    let peer := before.foldl hear unknown
    peer.hear o = ⟨header.manufacturer, peer.hasIndex || header.index.isSome, peer.deviceId⟩ ∧
      ((∀ c, (peer.hear o).encode c = peer.encode c) ↔
        header.manufacturer = peer.manufacturer ∧
          (header.index.isSome = true → peer.hasIndex = true)) := by
  intro peer
  have learned : peer.hear o =
      ⟨header.manufacturer, peer.hasIndex || header.index.isSome, peer.deviceId⟩ := by
    rw [hear, decode_of_no_session scanned (not_exists.1 unresolved)]
    rfl
  have short : peer.manufacturer.length ≤ 2 := length_manufacturer_hearAll_le (by decide) before
  have short' : (peer.hear o).manufacturer.length ≤ 2 := by
    rw [learned]
    exact Header.length_manufacturer_le scanned
  have device : (peer.hear o).deviceId = peer.deviceId := by rw [learned]
  refine ⟨learned, ?_⟩
  rw [encode_eq_iff short' short device, learned]
  obtain ⟨manufacturer, hasIndex, deviceId⟩ := peer
  cases hasIndex <;> simp

/-- A frame that comes while the directory knows one watch, does not know another, and fails for the
rest. -/
def strangerOccasion (frame : String) : Occasion (String → Lookup) MediaLibrary where
  services :=
    { sampleServices with
      directory uniqueId :=
        if uniqueId = "1" then .known ⟨42⟩
        else if uniqueId = "2" then .unknown
        else .failed (.directory "down") }
  connection := ⟨0⟩
  receivedAt := ⟨0, 0⟩
  frame := frame.toUTF8.toList

/-- After the frame of another watch with an index, commands to a known one have an index too. -/
theorem encode_hear_eq_iff_of_indexed :
    let peer := [strangerOccasion "[3G*1*0002*LK]"].foldl hear unknown
    let after := peer.hear (strangerOccasion "[3G*2*00AF*0002*LK]")
    after = ⟨"3G", true, some "1"⟩ ∧ ¬ ∀ c, after.encode c = peer.encode c := by
  have scanned : Header.scan (strangerOccasion "[3G*2*00AF*0002*LK]").frame =
      .complete ⟨"3G", "2", some "00AF", 2, 16⟩ := by
    decide +kernel
  have unresolved : ¬ (strangerOccasion "[3G*2*00AF*0002*LK]").services.Resolves ⟨0⟩ "2" := by
    rintro ⟨session, ⟨⟩⟩
  obtain ⟨learned, same⟩ :=
    encode_hear_eq_iff [strangerOccasion "[3G*1*0002*LK]"] scanned unresolved
  have earlier : [strangerOccasion "[3G*1*0002*LK]"].foldl hear unknown =
      ⟨"3G", false, some "1"⟩ := by
    decide +kernel
  rw [earlier] at learned same
  rw [earlier]
  refine ⟨learned, fun all => ?_⟩
  have had := (same.1 all).2 rfl
  cases had

/-- A frame that the directory does not know the device of, and a frame for which it fails, change
commands to a known watch. -/
theorem not_encode_hear_eq_of_unresolved :
    let peer := [strangerOccasion "[3G*1*0002*LK]"].foldl hear unknown
    let stranger := strangerOccasion "[SG*2*0002*LK]"
    let failing := strangerOccasion "[3G*3*00AF*0002*LK]"
    Header.scan stranger.frame = .complete ⟨"SG", "2", none, 2, 11⟩ ∧
      (stranger.services.resolve .byConnection ⟨0⟩ (some "2")).1 = .ok none ∧
      Header.scan failing.frame = .complete ⟨"3G", "3", some "00AF", 2, 16⟩ ∧
      (failing.services.resolve .byConnection ⟨0⟩ (some "3")).1 = .error (.directory "down") ∧
      (¬ ∀ c, (peer.hear stranger).encode c = peer.encode c) ∧
      ¬ ∀ c, (peer.hear failing).encode c = peer.encode c := by
  refine ⟨by decide +kernel, rfl, by decide +kernel, rfl, fun all => ?_, fun all => ?_⟩
  · have same := all locate
    revert same
    decide +kernel
  · have same := all locate
    revert same
    decide +kernel

end Peer

end Watch
end TrackerGateway
