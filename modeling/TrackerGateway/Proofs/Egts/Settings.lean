import TrackerGateway.Egts.Encoder
import TrackerGateway.Proofs.Egts.Reading
import TrackerGateway.Proofs.Egts.Replies
import TrackerGateway.Proofs.Text.Integers

/-!
# Commands that set the connection of a device

Such a command is written just if its parameters fit in the fields they have on the wire: the
server in a length of one octet, the port and the index in numbers of two. Then the packet can be
told from what follows it, its checks are right, and reading its frame data field by field finds
the port and the server again and ends where the frame data end (`encode_setConnection`).
-/

namespace TrackerGateway

/-- Whether a value is an integer, or a text in which one is written with blanks around it or
without. -/
inductive Attribute.Denotes : Attribute → Int → Prop where
  | integer (k : Int) : Denotes (.integer k) k
  | text {s : String} {k : Int} (written : Text.Integer.Written 10 (Text.trim s).toList k) :
    Denotes (.text s) k

theorem bind_eq_ok_iff {ε α β : Type} {read : Except ε α} {next : α → Except ε β} {b : β} :
    (read >>= next) = .ok b ↔ ∃ a, read = .ok a ∧ next a = .ok b := by
  cases read <;> simp [bind, Except.bind]

namespace Command

/-- Whether a parameter is there and is an unsigned number of 16 bits. -/
def HasSmall (c : Command) (key : String) (n : Nat) : Prop :=
  n ≤ 65535 ∧ ∃ value, c.parameter? key = some value ∧ value.Denotes n

theorem mapError_eq_ok_iff {ε ε' α : Type} {read : Except ε α} {a : α} (change : ε → ε') :
    read.mapError change = .ok a ↔ read = .ok a := by
  cases read <;> simp [Except.mapError]

theorem integer_eq_ok_iff {c : Command} {key : String} {k : Int}
    (inside : (Text.Integer.Range.signed 64).holds k = true) :
    c.integer key = .ok k ↔ ∃ value, c.parameter? key = some value ∧ value.Denotes k := by
  rw [integer]
  cases c.parameter? key with
  | none => simp
  | some value =>
    simp only [Option.some.injEq, exists_eq_left']
    cases value with
    | integer value =>
      simp only [Except.ok.injEq]
      exact ⟨fun same => same ▸ .integer value, fun | .integer _ => rfl⟩
    | text s =>
      have read : Text.Integer.read (.signed 64) 10 (Text.trim s).toList = .ok k ↔
          Text.Integer.Written 10 (Text.trim s).toList k ∧
              (Text.Integer.Range.signed 64).holds k = true :=
        Text.Integer.read_eq_ok_iff (by decide) (by decide)
      rw [and_iff_left inside] at read
      exact (mapError_eq_ok_iff _).trans (read.trans ⟨.text, fun | .text written => written⟩)
    | bool value => exact ⟨nofun, nofun⟩
    | double value => exact ⟨nofun, nofun⟩

theorem hasSmall_iff {c : Command} {key : String} {n : Nat} :
    c.HasSmall key n ↔ c.integer key = .ok (n : Int) ∧ n ≤ 65535 := by
  have ends : (Text.Integer.Range.signed 64).least ≤ 0 ∧
      65535 ≤ (Text.Integer.Range.signed 64).greatest := by
    decide
  rw [HasSmall, and_comm]
  refine and_congr_left fun fits => (integer_eq_ok_iff ?_).symm
  simp only [Text.Integer.Range.holds, Bool.and_eq_true, decide_eq_true_eq]
  omega

theorem text_eq_ok_iff {c : Command} {key s : String} :
    c.text key = .ok s ↔ ∃ value, c.parameter? key = some value ∧ value.toText = s := by
  rw [text]
  cases c.parameter? key <;> simp

end Command

namespace Egts

namespace ConnectionSettings

theorem small_eq_ok_iff {key : String} {reason : Int → String} {k : Int} {n : Nat} :
    small key reason k = .ok n ↔ k = n ∧ n ≤ 65535 := by
  rw [small]
  split
  · rw [Except.ok.injEq]
    omega
  · simp only [reduceCtorEq, false_iff]
    omega

/-- Whether a command asks for settings, all of which fit in their fields. -/
structure AskedBy (s : ConnectionSettings) (c : Command) : Prop where
  server : ∃ value, c.parameter? "server" = some value ∧ Utf8.encode value.toText = s.server
  short : s.server.length ≤ 255
  port : c.HasSmall "port" s.port
  index : c.parameter? "index" = none ∧ s.index = 0 ∨ c.HasSmall "index" s.index

theorem hasSmall_of_small {c : Command} {key : String} {reason : Int → String} {k : Int} {n : Nat}
    (read : c.integer key = .ok k) (found : small key reason k = .ok n) : c.HasSmall key n := by
  obtain ⟨rfl, fits⟩ := small_eq_ok_iff.1 found
  exact Command.hasSmall_iff.2 ⟨read, fits⟩

theorem ofCommand_eq_ok_iff {c : Command} {s : ConnectionSettings} :
    ofCommand c = .ok s ↔ s.AskedBy c := by
  rw [ofCommand]
  simp only [bind_eq_ok_iff]
  constructor
  · rintro ⟨server, named, k, read, port, small, rest⟩
    obtain ⟨value, there, rfl⟩ := Command.text_eq_ok_iff.1 named
    have port := hasSmall_of_small read small
    split at rest
    · cases rest
    · rename_i short
      have short := Nat.not_lt.1 short
      split at rest
      · rename_i absent
        cases rest
        exact ⟨⟨value, there, rfl⟩, short, port, .inl ⟨absent, rfl⟩⟩
      · simp only [bind_eq_ok_iff] at rest
        obtain ⟨k, read, index, small, made⟩ := rest
        cases made
        exact ⟨⟨value, there, rfl⟩, short, port, .inr (hasSmall_of_small read small)⟩
  · obtain ⟨server, port, index⟩ := s
    rintro ⟨⟨value, there, rfl⟩, short, asked, numbered⟩
    obtain ⟨read, fits⟩ := Command.hasSmall_iff.1 asked
    refine ⟨_, Command.text_eq_ok_iff.2 ⟨value, there, rfl⟩, port, read, port,
      small_eq_ok_iff.2 ⟨rfl, fits⟩, ?_⟩
    rw [if_neg (Nat.not_lt.2 short)]
    rcases numbered with ⟨absent, rfl⟩ | numbered
    · rw [absent]
    · obtain ⟨read, fits⟩ := Command.hasSmall_iff.1 numbered
      obtain ⟨-, other, there, -⟩ := numbered
      simp only [there, bind_eq_ok_iff]
      exact ⟨index, read, index, small_eq_ok_iff.2 ⟨rfl, fits⟩, rfl⟩

/-- What frame data with connection settings consist of, field by field. -/
structure Layout where
  recordLength : Nat
  recordNumber : Nat
  flags : Nat
  service : Nat
  recipient : Nat
  kind : Nat
  settingsLength : Nat
  connectionType : Bytes
  port : Nat
  serverLength : Nat
  server : Bytes
  reserved : Bytes
  interval : Nat
  deriving DecidableEq, Repr

/-- Reads the fields in their order. -/
def Layout.read (r : Reader) : Except ProtocolFault (Layout × Reader) := do
  let (recordLength, r) ← r.le 2
  let (recordNumber, r) ← r.le 2
  let (flags, r) ← r.le 1
  let (service, r) ← r.le 1
  let (recipient, r) ← r.le 1
  let (kind, r) ← r.le 1
  let (settingsLength, r) ← r.le 2
  let (connectionType, r) ← r.take 3
  let (port, r) ← r.le 2
  let (serverLength, r) ← r.le 1
  let (server, r) ← r.take serverLength
  let (reserved, r) ← r.take 2
  let (interval, r) ← r.le 4
  .ok (⟨recordLength, recordNumber, flags, service, recipient, kind, settingsLength,
    connectionType, port, serverLength, server, reserved, interval⟩, r)

/-- The frame data of the packet that carries the settings. -/
def frame (s : ConnectionSettings) : Bytes :=
  Record.build s.index Record.commandService (SubRecord.build SubRecord.commandData s.toBytes)

theorem length_toBytes (s : ConnectionSettings) : s.toBytes.length = 12 + s.server.length := by
  simp only [toBytes, List.length_append, Bytes.length_ofLe, List.length_cons, List.length_nil]
  omega

theorem length_frame (s : ConnectionSettings) : s.frame.length = 22 + s.server.length := by
  rw [frame, Record.length_build, SubRecord.length_build, length_toBytes]
  omega

/-- The fields of the settings, with lengths that are those of what follows. -/
def layout (s : ConnectionSettings) : Layout where
  recordLength := 15 + s.server.length
  recordNumber := s.index
  flags := 0
  service := Record.commandService
  recipient := Record.commandService
  kind := SubRecord.commandData
  settingsLength := 12 + s.server.length
  connectionType := [3, 2, 1]
  port := s.port
  serverLength := s.server.length
  server := s.server
  reserved := [0, 0]
  interval := reconnectInterval

open Reader (Reads)

theorem reads_frame {s : ConnectionSettings} (short : s.server.length ≤ 255) (port : s.port ≤ 65535)
    (index : s.index ≤ 65535) : Reads Layout.read s.frame s.layout := by
  have content : 3 + (12 + s.server.length) = 15 + s.server.length := by omega
  rw [frame, Record.build, SubRecord.length_build, SubRecord.build, length_toBytes,
    content, toBytes]
  simp only [List.append_assoc]
  refine (Reads.le (show _ < 65536 by omega)).bind ?_
  refine (Reads.le (Nat.lt_succ_of_le index)).bind ?_
  refine (Reads.le (by decide)).bind ?_
  refine (Reads.le (by decide)).bind ?_
  refine (Reads.le (by decide)).bind ?_
  refine (Reads.le (by decide)).bind ?_
  refine (Reads.le (show _ < 65536 by omega)).bind ?_
  refine (Reads.take rfl).bind ?_
  refine (Reads.le (Nat.lt_succ_of_le port)).bind ?_
  refine (Reads.le (show _ < 256 by omega)).bind ?_
  refine (Reads.take rfl).bind ?_
  refine (Reads.take rfl).bind ?_
  exact (Reads.le (by decide)).last (Layout.mk _ _ _ _ _ _ _ _ _ _ _ _)

/-- Whether the parameters of a command fit in the fields they have. -/
structure Fit (c : Command) : Prop where
  server : ∃ value, c.parameter? "server" = some value ∧ (Utf8.encode value.toText).length ≤ 255
  port : ∃ n, c.HasSmall "port" n
  index : c.parameter? "index" = none ∨ ∃ n, c.HasSmall "index" n

theorem exists_askedBy_iff {c : Command} : (∃ s : ConnectionSettings, s.AskedBy c) ↔ Fit c := by
  constructor
  · rintro ⟨⟨server, port, index⟩, ⟨value, there, rfl⟩, short, asked, numbered⟩
    refine ⟨⟨value, there, short⟩, ⟨port, asked⟩, ?_⟩
    rcases numbered with ⟨absent, -⟩ | numbered
    · exact .inl absent
    · exact .inr ⟨index, numbered⟩
  · rintro ⟨⟨value, there, short⟩, ⟨port, asked⟩, absent | ⟨index, numbered⟩⟩
    · exact ⟨⟨_, port, 0⟩, ⟨value, there, rfl⟩, short, asked, .inl ⟨absent, rfl⟩⟩
    · exact ⟨⟨_, port, index⟩, ⟨value, there, rfl⟩, short, asked, .inr numbered⟩

/-- Whether a packet carries settings: numbered by the index, with frame data that hold them field
by field, each length of which is that of what follows it, up to the end. -/
structure CarriedBy (s : ConnectionSettings) (packet : Packet) : Prop where
  id : packet.id = s.index
  packetType : packet.packetType = Packet.typeAppData
  fields : Layout.read (.ofBytes packet.frame) = .ok (s.layout, ⟨packet.frame.reverse, []⟩)
  recordLength : packet.frame.length = 7 + s.layout.recordLength
  settingsLength : packet.frame.length = 10 + s.layout.settingsLength

theorem AskedBy.index_le {s : ConnectionSettings} {c : Command} (asked : s.AskedBy c) :
    s.index ≤ 65535 := by
  rcases asked.index with ⟨-, zero⟩ | numbered
  · omega
  · exact numbered.1

theorem AskedBy.sound_toPacket {s : ConnectionSettings} {c : Command} (asked : s.AskedBy c) :
    Packet.Sound s.toPacket ⟨s.index, Packet.typeAppData, s.frame⟩ := by
  have length := s.length_frame
  have short := asked.short
  have full : s.frame ≠ [] := List.length_pos_iff.1 (by omega)
  have sound := Packet.sound_build s.index Packet.typeAppData full (by omega)
  rwa [Nat.mod_eq_of_lt (Nat.lt_succ_of_le asked.index_le)] at sound

theorem AskedBy.carriedBy {s : ConnectionSettings} {c : Command} (asked : s.AskedBy c) :
    s.CarriedBy ⟨s.index, Packet.typeAppData, s.frame⟩ where
  id := rfl
  packetType := rfl
  fields := by
    have read := reads_frame asked.short asked.port.1 asked.index_le [] []
    rwa [List.append_nil] at read
  recordLength := by
    show s.frame.length = 7 + (15 + s.server.length)
    rw [s.length_frame, ← Nat.add_assoc]
  settingsLength := by
    show s.frame.length = 10 + (12 + s.server.length)
    rw [s.length_frame, ← Nat.add_assoc]

end ConnectionSettings

/-- A command to set the connection is written just if its parameters fit, and then as a packet
from which the settings it asks for can be read again, whatever follows the packet. -/
theorem encode_setConnection (c : Command) (kind : c.kind = .setConnection) :
    ((∃ octets, encode c = .ok octets) ↔ ConnectionSettings.Fit c) ∧
      ∀ octets, encode c = .ok octets →
        ∃ (s : ConnectionSettings) (packet : Packet),
          s.AskedBy c ∧ Packet.Sound octets packet ∧ s.CarriedBy packet := by
  have written : ∀ octets, encode c = .ok octets ↔
      ∃ s : ConnectionSettings, s.AskedBy c ∧ s.toPacket = octets := by
    intro octets
    rw [encode, kind]
    simp only [← ConnectionSettings.ofCommand_eq_ok_iff]
    cases ConnectionSettings.ofCommand c <;> simp [Except.map]
  constructor
  · rw [← ConnectionSettings.exists_askedBy_iff]
    constructor
    · rintro ⟨octets, done⟩
      obtain ⟨s, asked, -⟩ := (written octets).1 done
      exact ⟨s, asked⟩
    · rintro ⟨s, asked⟩
      exact ⟨_, (written _).2 ⟨s, asked, rfl⟩⟩
  · intro octets done
    obtain ⟨s, asked, rfl⟩ := (written octets).1 done
    exact ⟨s, _, asked, asked.sound_toPacket, asked.carriedBy⟩

/-- A port in a text, with a sign, zeros in front and blanks around it, and no index. The last two
octets of the packet are the check of its frame data. -/
theorem encode_setConnection_of_text :
    let c : Command :=
  ⟨⟨1⟩, .setConnection, [("server", .text "gw.example.net"), ("port", .text " +05001 ")]⟩
    c.kind = .setConnection ∧ (encode c).toOption.map (·.drop 47) = some [0x7B, 0xF2] ∧
      ((∃ octets, encode c = .ok octets) ↔ ConnectionSettings.Fit c) ∧
        ∀ octets, encode c = .ok octets →
          ∃ (s : ConnectionSettings) (packet : Packet),
            s.AskedBy c ∧ Packet.Sound octets packet ∧ s.CarriedBy packet := by
  intro c
  have kind : c.kind = .setConnection := rfl
  exact ⟨kind, by decide +kernel, encode_setConnection c kind⟩

end Egts
end TrackerGateway
