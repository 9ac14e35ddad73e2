import TrackerGateway.Proofs.Config.Loading
import TrackerGateway.Proofs.Config.Options
import TrackerGateway.Proofs.Toml.Documents

/-!
# Settings survive being stored

Settings that were loaded are written as tables that are read back: the names of protocols are the
only keys that the settings bring along, and these need no quotes (`orderly_members`). From what
is read back each section gets what it was written from (`ofJson?_written`), so that the new file
holds the same settings (`load_store`).
-/

namespace TrackerGateway.Config

open Text.Integer (Range)
open Toml (Tidy Orderly arranged)
open Toml.Scan (Plain)

variable {c : Config}

/-! ### What is written -/

/-- A table with these keys. -/
theorem orderly_of_keys {room : Nat} {members : List (String × Json)} (names : List String)
    (keys : members.map (·.1) = names) (clean : names.Nodup ∧ names.all Toml.Printer.isBare = true)
    (all : ∀ m ∈ members, Tidy room m.2) : Orderly room members where
  distinct := keys ▸ clean.1
  bare m member := List.all_eq_true.1 clean.2 m.1 (keys ▸ List.mem_map_of_mem member)
  all := all

theorem tidy_object {room : Nat} {members : List (String × Json)} (orderly : Orderly room members) :
    Tidy (room + 1) (.object members) :=
  .table orderly.distinct orderly.bare orderly.all

/-- A list of tables, which may be empty. -/
theorem tidy_list {α : Type} {room : Nat} {members : α → List (String × Json)} {xs : List α}
    (each : ∀ x ∈ xs, Orderly room (members x)) :
    Tidy (room + 1) (.list (xs.map fun x => .object (members x))) := by
  cases xs with
  | nil => exact .plain .empty
  | cons x xs =>
    refine .tables (List.cons_ne_nil _ _) (fun v member => ?_) (fun v member => ?_)
    · obtain ⟨y, -, rfl⟩ := List.mem_map.1 member
      rfl
    · obtain ⟨y, among, rfl⟩ := List.mem_map.1 member
      exact tidy_object (each y among)

/-- The members of a listener. -/
def listenerMembers (l : ListenerConfig) : List (String × Json) :=
  [("protocol", .text l.protocol.name), ("transport", .text l.transport.name),
    ("addr", .text l.address.toText)]

/-- The members of a device. -/
def deviceMembers (d : DeviceEntry) : List (String × Json) :=
  [("id", .integer d.id), ("unique_id", .text d.uniqueId)]

/-- The members of the settings of the server. -/
def serverMembers (c : Config) : List (String × Json) :=
  [("listeners", .list (c.listeners.map fun l => .object (listenerMembers l))),
    ("idle_timeout", .text c.idleTimeout.toText),
    ("ignore_session_cache", .bool c.ignoreSessionCache),
    ("position_buffer", .integer c.positionBuffer)]

/-- The members of the options of a protocol. -/
def optionMembers (options : ProtocolOptions) : List (String × Json) :=
  ("use_identifier_as_key", .bool options.useIdentifierAsKey) ::
    Json.ifSome "ignore_session_cache" .bool options.ignoreSessionCache

/-- The members of the options of all protocols. -/
def protocolMembers (c : Config) : List (String × Json) :=
  c.protocols.map fun entry => (entry.1, .object (optionMembers entry.2))

/-- The members of the settings of the directory. -/
def directoryMembers (c : Config) : List (String × Json) :=
  [("register_unknown", .bool c.registerUnknown),
    ("devices", .list (c.devices.map fun d => .object (deviceMembers d)))]

/-- The members of the settings of the log. -/
def loggingMembers (c : Config) : List (String × Json) :=
  [("level", .text c.logLevel), ("format", .text c.logFormat), ("color", .bool c.logColor)]

theorem members_eq (c : Config) : c.members =
    [("server", .object c.serverMembers), ("protocols", .object c.protocolMembers),
      ("directory", .object c.directoryMembers), ("media", .object [("root", .text c.mediaRoot)]),
      ("logging", .object c.loggingMembers)] := rfl

theorem orderly_listener (room : Nat) (l : ListenerConfig) : Orderly room (listenerMembers l) := by
  refine orderly_of_keys ["protocol", "transport", "addr"] rfl (by decide) fun m member => ?_
  simp only [listenerMembers, List.mem_cons, List.not_mem_nil, or_false] at member
  rcases member with rfl | rfl | rfl
  · exact .plain (.text _)
  · exact .plain (.text _)
  · exact .plain (.text _)

theorem orderly_device (room : Nat) {d : DeviceEntry} (fits : (Range.signed 64).holds d.id = true) :
    Orderly room (deviceMembers d) := by
  refine orderly_of_keys ["id", "unique_id"] rfl (by decide) fun m member => ?_
  simp only [deviceMembers, List.mem_cons, List.not_mem_nil, or_false] at member
  rcases member with rfl | rfl
  · exact .plain (.integer fits)
  · exact .plain (.text _)

theorem orderly_options (room : Nat) (options : ProtocolOptions) :
    Orderly room (optionMembers options) := by
  obtain ⟨useIdentifierAsKey, ignoreSessionCache⟩ := options
  cases ignoreSessionCache with
  | none =>
    refine orderly_of_keys ["use_identifier_as_key"] rfl (by decide) fun m member => ?_
    rw [List.mem_singleton.1 member]
    exact .plain (.bool _)
  | some b =>
    refine orderly_of_keys ["use_identifier_as_key", "ignore_session_cache"] rfl (by decide)
      fun m member => ?_
    simp only [optionMembers, Json.ifSome, List.mem_cons, List.not_mem_nil, or_false] at member
    rcases member with rfl | rfl
    · exact .plain (.bool _)
    · exact .plain (.bool _)

theorem orderly_server (storable : c.Storable) : Orderly 1 c.serverMembers := by
  refine orderly_of_keys ["listeners", "idle_timeout", "ignore_session_cache", "position_buffer"]
    rfl (by decide)
    fun m member => ?_
  simp only [serverMembers, List.mem_cons, List.not_mem_nil, or_false] at member
  rcases member with rfl | rfl | rfl | rfl
  · exact tidy_list fun l _ => orderly_listener 0 l
  · exact .plain (.text _)
  · exact .plain (.bool _)
  · exact .plain (.integer storable.positionBuffer)

theorem isAlphanum_of_toLower {c : Char} (letter : c.toLower.isAlphanum = true) :
    c.isAlphanum = true := by
  unfold Char.toLower at letter
  split at letter
  · rename_i range
    have upper : c.isUpper = true := decide_eq_true range
    simp [Char.isAlphanum, Char.isAlpha, upper]
  · exact letter

/-- The name of a protocol needs no quotes, in whatever case its letters are. -/
theorem isBare_of_ofName {name : String} {p : Protocol} (named : Protocol.ofName name = .ok p) :
    Toml.Printer.isBare name = true := by
  have lower := Protocol.ofName_eq_ok_iff.1 named
  rw [Protocol.toAsciiLower_name, ← String.toList_inj, Text.toAsciiLower,
    String.toList_map] at lower
  have letters : p.name.toList ≠ [] ∧ p.name.toList.all Char.isAlphanum = true := by
    cases p <;> decide
  rw [← lower, List.all_map] at letters
  obtain ⟨some_there, all⟩ := letters
  rw [Toml.Printer.isBare, Bool.and_eq_true, List.all_eq_true]
  constructor
  · rw [bne_iff_ne]
    rintro rfl
    exact some_there rfl
  · intro c member
    have here := isAlphanum_of_toLower (List.all_eq_true.1 all c member)
    simp [here]

theorem orderly_protocols (storable : c.Storable) (valid : c.validate = .ok ()) :
    Orderly 1 c.protocolMembers where
  distinct := by
    rw [protocolMembers, List.map_map]
    refine List.pairwise_map.2 (storable.sorted.imp ?_)
    intro a b before same
    rw [Function.comp_apply, Function.comp_apply] at same
    dsimp only at same
    rw [same] at before
    exact String.lt_irrefl _ before
  bare m member := by
    obtain ⟨entry, among, rfl⟩ := List.mem_map.1 member
    obtain ⟨p, named⟩ := exists_protocol_of_validate valid among
    exact isBare_of_ofName named
  all m member := by
    obtain ⟨entry, among, rfl⟩ := List.mem_map.1 member
    exact tidy_object (orderly_options 0 entry.2)

theorem orderly_directory (storable : c.Storable) : Orderly 1 c.directoryMembers := by
  refine orderly_of_keys ["register_unknown", "devices"] rfl (by decide) fun m member => ?_
  simp only [directoryMembers, List.mem_cons, List.not_mem_nil, or_false] at member
  rcases member with rfl | rfl
  · exact .plain (.bool _)
  · exact tidy_list fun d among => orderly_device 0 (storable.ids d among)

theorem orderly_media (room : Nat) (root : String) : Orderly room [("root", .text root)] := by
  refine orderly_of_keys ["root"] rfl (by decide) fun m member => ?_
  rw [List.mem_singleton.1 member]
  exact .plain (.text _)

theorem orderly_logging (room : Nat) (c : Config) : Orderly room c.loggingMembers := by
  refine orderly_of_keys ["level", "format", "color"] rfl (by decide) fun m member => ?_
  simp only [loggingMembers, List.mem_cons, List.not_mem_nil, or_false] at member
  rcases member with rfl | rfl | rfl
  · exact .plain (.text _)
  · exact .plain (.text _)
  · exact .plain (.bool _)

/-- Storable settings are read back from a document as they were written. -/
theorem orderly_members (storable : c.Storable) (valid : c.validate = .ok ()) :
    Orderly 2 c.members := by
  refine orderly_of_keys ["server", "protocols", "directory", "media", "logging"] rfl (by decide)
    fun m member => ?_
  simp only [members_eq, List.mem_cons, List.not_mem_nil, or_false] at member
  rcases member with rfl | rfl | rfl | rfl | rfl
  · exact tidy_object (orderly_server storable)
  · exact tidy_object (orderly_protocols storable valid)
  · exact tidy_object (orderly_directory storable)
  · exact tidy_object (orderly_media 1 c.mediaRoot)
  · exact tidy_object (orderly_logging 1 c)

/-! ### What is read back -/

/-- The fields of a table that was written. -/
def written (members : List (String × Json)) : Json.Record :=
  ⟨fun name => Json.member? name (Toml.plainMembers members ++ Toml.arrangedTables members), false⟩

theorem record?_written (names : List String) (members : List (String × Json)) :
    Json.record? names (arranged (.object members)) = some (written members) := by
  rw [arranged]
  rfl

section

variable {α : Type} {room : Nat} {members : List (String × Json)} {name : String} {v : Json}

theorem required_written (orderly : Orderly room members) (member : (name, v) ∈ members)
    (read : Json → Option α) : (written members).required name read = read (arranged v) := by
  have found : (written members).field name = some (arranged v) :=
    Toml.member?_arranged orderly member
  rw [Json.Record.required, found]
  rfl

theorem defaulted_written (orderly : Orderly room members) (member : (name, v) ∈ members)
    (default : α) (read : Json → Option α) :
    (written members).defaulted name default read = read (arranged v) := by
  have found : (written members).field name = some (arranged v) :=
    Toml.member?_arranged orderly member
  rw [Json.Record.defaulted, found]

theorem asList?_written {read : Json → Option α} {members : α → List (String × Json)} {xs : List α}
    (each : ∀ x ∈ xs, read (arranged (.object (members x))) = some x) :
    Json.asList? read (arranged (.list (xs.map fun x => .object (members x)))) = some xs := by
  have elements (ys : List α) : Toml.arrangedElements (ys.map fun x => .object (members x)) =
      ys.map fun x => arranged (.object (members x)) := by
    induction ys with
    | nil => rfl
    | cons y ys ih => rw [List.map_cons, Toml.arrangedElements, ih, List.map_cons]
  rw [arranged, elements]
  exact Json.mapM_written each

end

theorem protocol?_name (p : Protocol) :
    ListenerConfig.protocol? (arranged (.text p.name)) = some p := by
  cases p <;> rfl

theorem transport?_name (t : Transport) :
    ListenerConfig.transport? (arranged (.text t.name)) = some t := by
  cases t <;> rfl

theorem ofJson?_listener {l : ListenerConfig} (real : l.address.Real) :
    ListenerConfig.ofJson? (arranged (.object (listenerMembers l))) = some l := by
  have orderly := orderly_listener 0 l
  have protocol : (written (listenerMembers l)).required "protocol" ListenerConfig.protocol? =
      some l.protocol := by
    rw [required_written orderly List.mem_cons_self, protocol?_name]
  have transport :
      (written (listenerMembers l)).defaulted "transport" .tcp ListenerConfig.transport? =
      some l.transport := by
    rw [defaulted_written orderly (.tail _ List.mem_cons_self), transport?_name]
  have address : (written (listenerMembers l)).required "addr"
      (fun j => (Json.asText? j).bind SocketAddress.ofText?) = some l.address := by
    rw [required_written orderly (.tail _ (.tail _ List.mem_cons_self))]
    exact SocketAddress.ofText?_toText real
  simp only [ListenerConfig.ofJson?, record?_written, Option.bind_eq_bind, Option.bind_some,
    protocol, transport, address]

theorem asNat?_written {n : Nat} (fits : (Range.signed 64).holds n = true) :
    Json.asNat? 64 (arranged (.integer n)) = some n := by
  have below : n < 2 ^ 63 := Text.Integer.holds_signed_natCast_iff.1 fits
  have inside : (Range.unsigned 64).holds n = true := Text.Integer.holds_unsigned_iff.2 (by omega)
  rw [Toml.arranged_of_plain (.integer fits), Json.asNat?, Json.asInteger?, if_pos inside]
  rfl

theorem ofJson?_device {d : DeviceEntry} (fits : (Range.signed 64).holds d.id = true) :
    DeviceEntry.ofJson? (arranged (.object (deviceMembers d))) = some d := by
  have orderly := orderly_device 0 fits
  have id : (written (deviceMembers d)).required "id" (Json.asNat? 64) = some d.id := by
    rw [required_written orderly List.mem_cons_self, asNat?_written fits]
  have uniqueId : (written (deviceMembers d)).required "unique_id" Json.asText? =
      some d.uniqueId := by
    rw [required_written orderly (.tail _ List.mem_cons_self)]
    rfl
  simp only [DeviceEntry.ofJson?, record?_written, Option.bind_eq_bind, Option.bind_some, id,
    uniqueId]

/-- Whether the setting for a protocol is there or not is kept. -/
theorem ofJson?_options (options : ProtocolOptions) :
    ProtocolOptions.ofJson? (arranged (.object (optionMembers options))) = some options := by
  obtain ⟨useIdentifierAsKey, ignoreSessionCache⟩ := options
  cases ignoreSessionCache <;> rfl

theorem readServer?_written (storable : c.Storable) (d : Config) :
    readServer? d (arranged (.object c.serverMembers)) =
      some { d with
        listeners := c.listeners
        idleTimeout := c.idleTimeout
        ignoreSessionCache := c.ignoreSessionCache
        positionBuffer := c.positionBuffer } := by
  have orderly := orderly_server storable
  have listeners : (written c.serverMembers).defaulted "listeners" d.listeners
      (Json.asList? ListenerConfig.ofJson?) = some c.listeners := by
    rw [defaulted_written orderly List.mem_cons_self]
    exact asList?_written fun l member => ofJson?_listener (storable.addresses l member)
  have idleTimeout : (written c.serverMembers).defaulted "idle_timeout" d.idleTimeout
      (fun j => (Json.asText? j).bind Duration.ofText?) = some c.idleTimeout := by
    rw [defaulted_written orderly (.tail _ List.mem_cons_self)]
    exact Duration.ofText?_toText storable.idleTimeout
  have ignoreSessionCache :
      (written c.serverMembers).defaulted "ignore_session_cache" d.ignoreSessionCache
      Json.asBool? = some c.ignoreSessionCache := by
    rw [defaulted_written orderly (.tail _ (.tail _ List.mem_cons_self))]
    rfl
  have positionBuffer : (written c.serverMembers).defaulted "position_buffer" d.positionBuffer
      (Json.asNat? 64) = some c.positionBuffer := by
    rw [defaulted_written orderly (.tail _ (.tail _ (.tail _ List.mem_cons_self))),
      asNat?_written storable.positionBuffer]
  simp only [readServer?, record?_written, Option.bind_eq_bind, Option.bind_some, listeners,
    idleTimeout, ignoreSessionCache, positionBuffer]

theorem readProtocols?_written (storable : c.Storable) :
    readProtocols? (arranged (.object c.protocolMembers)) = some c.protocols := by
  -- Options are tables, so nothing is moved in front of them.
  have headed : Toml.plainMembers c.protocolMembers = [] := by
    refine List.filter_eq_nil_iff.2 fun m member => ?_
    obtain ⟨entry, -, rfl⟩ := List.mem_map.1 member
    exact Bool.false_ne_true
  have tables : Toml.arrangedTables c.protocolMembers =
      c.protocols.map fun entry => (entry.1, arranged (.object (optionMembers entry.2))) := by
    rw [Toml.arrangedTables_eq, List.filter_eq_self.2, protocolMembers, List.map_map]
    · rfl
    · intro m member
      obtain ⟨entry, -, rfl⟩ := List.mem_map.1 member
      rfl
  have options : (c.protocols.map fun entry => (entry.1,
      arranged (.object (optionMembers entry.2)))).mapM
      (fun entry => (ProtocolOptions.ofJson? entry.2).map (entry.1, ·)) = some c.protocols := by
    refine Json.mapM_written fun entry _ => ?_
    rw [ofJson?_options]
    rfl
  rw [arranged, headed, tables, List.nil_append, readProtocols?, options, Option.map_some,
    sortByName_of_sorted storable.sorted]

theorem readDirectory?_written (storable : c.Storable) (d : Config) :
    readDirectory? d (arranged (.object c.directoryMembers)) =
      some { d with registerUnknown := c.registerUnknown, devices := c.devices } := by
  have orderly := orderly_directory storable
  have registerUnknown :
      (written c.directoryMembers).defaulted "register_unknown" d.registerUnknown Json.asBool? =
      some c.registerUnknown := by
    rw [defaulted_written orderly List.mem_cons_self]
    rfl
  have devices : (written c.directoryMembers).defaulted "devices" d.devices
      (Json.asList? DeviceEntry.ofJson?) = some c.devices := by
    rw [defaulted_written orderly (.tail _ List.mem_cons_self)]
    exact asList?_written fun e member => ofJson?_device (storable.ids e member)
  simp only [readDirectory?, record?_written, Option.bind_eq_bind, Option.bind_some,
    registerUnknown, devices]

theorem readMedia?_written (root : String) (d : Config) :
    readMedia? d (arranged (.object [("root", .text root)])) = some { d with mediaRoot := root } :=
  rfl

theorem readLogging?_written (c d : Config) :
    readLogging? d (arranged (.object c.loggingMembers)) =
      some { d with logLevel := c.logLevel, logFormat := c.logFormat, logColor := c.logColor } :=
  rfl

/-- Settings are read from what their file holds. -/
theorem ofJson?_written (storable : c.Storable) (valid : c.validate = .ok ()) :
    ofJson? (arranged (.object c.members)) = some c := by
  have orderly := orderly_members storable valid
  have server : (written c.members).defaulted "server" default (readServer? default) = _ :=
    (defaulted_written orderly List.mem_cons_self _ _).trans (readServer?_written storable default)
  have protocols : (written c.members).defaulted "protocols" [] readProtocols? = some c.protocols :=
    (defaulted_written orderly (.tail _ List.mem_cons_self) _ _).trans
      (readProtocols?_written storable)
  have directory (d : Config) :
      (written c.members).defaulted "directory" d (readDirectory? d) = _ :=
    (defaulted_written orderly (.tail _ (.tail _ List.mem_cons_self)) _ _).trans
      (readDirectory?_written storable d)
  have media (d : Config) : (written c.members).defaulted "media" d (readMedia? d) = _ :=
    (defaulted_written orderly (.tail _ (.tail _ (.tail _ List.mem_cons_self))) _ _).trans
      (readMedia?_written c.mediaRoot d)
  have logging (d : Config) : (written c.members).defaulted "logging" d (readLogging? d) = _ :=
    (defaulted_written orderly (.tail _ (.tail _ (.tail _ (.tail _ List.mem_cons_self)))) _ _).trans
      (readLogging?_written c d)
  simp only [ofJson?, record?_written, Option.bind_eq_bind, Option.bind_some, server, protocols,
    directory, media, logging]

/-- A file that settings were loaded from can be written anew from the settings, and the settings
that are loaded from the new file are the same. -/
theorem load_store {text : String} (loaded : load text = .ok c) :
    ∃ saved, c.store = .ok saved ∧ load saved = .ok c := by
  obtain ⟨read, valid⟩ := load_eq_ok_iff.1 loaded
  obtain ⟨j, parsed, read⟩ := Option.bind_eq_some_iff.1 read
  -- That the settings come from a file bounds their numbers, and this is what the way back needs.
  have storable := storable_ofJson? (Toml.proper_of_parse parsed) read
  have orderly := orderly_members storable valid
  refine ⟨c.save, if_pos (Toml.fits_of_tidy (tidy_object orderly)), load_eq_ok_iff.2 ⟨?_, valid⟩⟩
  rw [save, Toml.parse?_document orderly (by decide), Option.bind_some,
    ofJson?_written storable valid]

/-- A file that leaves most settings out. -/
def sampleFile : String :=
  "[server]\nidle_timeout = \"90s\"\n" ++
    "[[server.listeners]]\nprotocol = \"egts\"\naddr = \"[::1]:5020\"\n" ++
    "[protocols.watch]\n[protocols.egts]\nignore_session_cache = false\n" ++
    "[media]\nroot = 'best \"shots\"'\n"

/-- What is in the file. -/
def sampleSettings : Config :=
  { default with
    listeners := [⟨.egts, .tcp, .v6 [0, 0, 0, 0, 0, 0, 0, 1] 0 5020⟩]
    idleTimeout := .ofSeconds 90
    protocols := [("egts", ⟨false, some false⟩), ("watch", ⟨false, none⟩)]
    mediaRoot := "best \"shots\"" }

theorem load_sampleFile : load sampleFile = .ok sampleSettings := by
  have loaded : (load sampleFile).toOption = some sampleSettings := by decide +kernel
  cases result : load sampleFile with
  | error fault =>
    rw [result] at loaded
    cases loaded
  | ok c =>
    rw [result] at loaded
    rw [Option.some.inj loaded]

theorem load_store_sampleSettings : load sampleFile = .ok sampleSettings ∧
    ∃ saved, sampleSettings.store = .ok saved ∧ load saved = .ok sampleSettings :=
  ⟨load_sampleFile, load_store load_sampleFile⟩

end TrackerGateway.Config
