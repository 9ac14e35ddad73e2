import TrackerGateway.Proofs.Config.Addresses
import TrackerGateway.Config
import TrackerGateway.Proofs.Time.Durations
import TrackerGateway.Proofs.Toml.Soundness

/-!
# What holds of settings that were loaded

Settings that are read from a document can be written to one (`Storable`): their numbers fit in a
file, their addresses and spans are such as have a text that is read back, and their options are
in the order of the names.
-/

namespace TrackerGateway

open Text.Integer (Range)

/-! ### Records -/

namespace Json

variable {α : Type} {names : List String} {j v : Json} {r : Record} {name : String}

theorem mem_of_lookup {elements : List Json} (found : (names.zip elements).lookup name = some v) :
    v ∈ elements := by
  obtain ⟨front, back, split, -⟩ := List.lookup_eq_some_iff.1 found
  have among : (name, v) ∈ names.zip elements := by
    rw [split]
    exact List.mem_append_right _ List.mem_cons_self
  exact (List.of_mem_zip among).2

theorem mem_of_member? {members : List (String × Json)} (found : member? name members = some v) :
    ∃ m ∈ members, m.2 = v := by
  obtain ⟨m, known, rfl⟩ := Option.map_eq_some_iff.1 found
  exact ⟨m, List.mem_reverse.1 (List.mem_of_find?_eq_some known), rfl⟩

theorem proper_of_field (proper : j.Proper) (known : record? names j = some r)
    (found : r.field name = some v) : v.Proper := by
  cases proper with
  | list all =>
    rw [record?, Option.ite_none_right_eq_some] at known
    obtain ⟨-, known⟩ := known
    cases known
    exact all v (mem_of_lookup found)
  | object distinct all =>
    cases known
    obtain ⟨m, member, rfl⟩ := mem_of_member? found
    exact all m member
  | _ => cases known

theorem Record.of_defaulted {default x : α} {read : Json → Option α}
    (known : r.defaulted name default read = some x) :
    x = default ∨ ∃ v, r.field name = some v ∧ read v = some x := by
  unfold defaulted at known
  split at known
  · exact .inl (Option.some.inj known).symm
  · rename_i v found
    exact .inr ⟨v, found, known⟩

theorem Record.of_required {x : α} {read : Json → Option α}
    (known : r.required name read = some x) : ∃ v, r.field name = some v ∧ read v = some x :=
  Option.bind_eq_some_iff.1 known

theorem of_mapM {β : Type} {read : β → Option α} {elements : List β} {xs : List α}
    (known : elements.mapM read = some xs) : ∀ x ∈ xs, ∃ v ∈ elements, read v = some x := by
  induction elements generalizing xs with
  | nil =>
    cases known
    exact fun x member => absurd member List.not_mem_nil
  | cons v elements ih =>
    rw [List.mapM_cons] at known
    obtain ⟨y, first, known⟩ := Option.bind_eq_some_iff.1 known
    obtain ⟨ys, later, known⟩ := Option.bind_eq_some_iff.1 known
    cases known
    intro x member
    rcases List.mem_cons.1 member with rfl | among
    · exact ⟨v, List.mem_cons_self, first⟩
    · obtain ⟨w, inside, same⟩ := ih later x among
      exact ⟨w, List.mem_cons_of_mem _ inside, same⟩

theorem mapM_written {β : Type} {read : β → Option α} {write : α → β} {xs : List α}
    (each : ∀ x ∈ xs, read (write x) = some x) : (xs.map write).mapM read = some xs := by
  induction xs with
  | nil => rfl
  | cons x xs ih =>
    rw [List.map_cons, List.mapM_cons, each x List.mem_cons_self,
      ih fun y member => each y (List.mem_cons_of_mem _ member)]
    rfl

/-- What is read from the elements of a proper list is read from proper values. -/
theorem of_asList? {read : Json → Option α} {xs : List α} (proper : j.Proper)
    (known : asList? read j = some xs) : ∀ x ∈ xs, ∃ v : Json, v.Proper ∧ read v = some x := by
  intro x member
  cases proper with
  | list all =>
    obtain ⟨v, among, same⟩ := of_mapM known x member
    exact ⟨v, all v among, same⟩
  | _ => cases known

/-- A number that is read from a proper value fits in a file. -/
theorem holds_of_asNat? {bits n : Nat} (proper : j.Proper) (known : asNat? bits j = some n) :
    (Range.signed 64).holds n = true ∧ n < 2 ^ bits := by
  obtain ⟨k, read, rfl⟩ := Option.map_eq_some_iff.1 known
  cases proper with
  | integer fits =>
    rw [asInteger?, Option.ite_none_right_eq_some] at read
    obtain ⟨inside, same⟩ := read
    cases same
    have above : 0 ≤ k := (Text.Integer.holds_iff.1 inside).1
    obtain ⟨n, rfl⟩ := Int.eq_ofNat_of_zero_le above
    exact ⟨fits, Text.Integer.holds_unsigned_iff.1 inside⟩
  | _ => cases read

end Json

/-! ### Names in order -/

namespace Config

theorem sortByName_of_sorted {α : Type} {entries : List (String × α)}
    (sorted : entries.Pairwise fun a b => a.1 < b.1) :
    sortByName entries = entries := by
  induction entries with
  | nil => rfl
  | cons entry rest ih =>
    obtain ⟨first, later⟩ := List.pairwise_cons.1 sorted
    show insertByName entry (sortByName rest) = entry :: rest
    rw [ih later]
    match rest, first with
    | [], _ => rfl
    | other :: rest, first => exact if_pos (first other List.mem_cons_self)

theorem mem_insertByName {α : Type} {entry other : String × α} {entries : List (String × α)} :
    other ∈ insertByName entry entries ↔ other = entry ∨ other ∈ entries := by
  induction entries with
  | nil => simp [insertByName]
  | cons next rest ih =>
    rw [insertByName]
    split
    · simp
    · rw [List.mem_cons, ih, List.mem_cons]
      exact or_left_comm

theorem mem_sortByName {α : Type} {entry : String × α} {entries : List (String × α)} :
    entry ∈ sortByName entries ↔ entry ∈ entries := by
  induction entries with
  | nil => rfl
  | cons next rest ih =>
    show entry ∈ insertByName next (sortByName rest) ↔ _
    rw [mem_insertByName, ih, List.mem_cons]

theorem sorted_insertByName {α : Type} {entry : String × α} {entries : List (String × α)}
    (sorted : entries.Pairwise fun a b => a.1 < b.1) (new : ∀ other ∈ entries, other.1 ≠ entry.1) :
    (insertByName entry entries).Pairwise fun a b => a.1 < b.1 := by
  induction entries with
  | nil => exact List.pairwise_singleton _ _
  | cons next rest ih =>
    obtain ⟨first, later⟩ := List.pairwise_cons.1 sorted
    rw [insertByName]
    split
    · rename_i before
      refine List.pairwise_cons.2 ⟨fun other member => ?_, sorted⟩
      rcases List.mem_cons.1 member with rfl | among
      · exact before
      · exact String.lt_trans before (first other among)
    · rename_i behind
      have after : next.1 < entry.1 := by
        by_contra apart
        exact new next List.mem_cons_self
          (String.le_antisymm (String.not_lt.1 behind) (String.not_lt.1 apart))
      refine List.pairwise_cons.2 ⟨fun other member => ?_,
          ih later fun other member => new other (List.mem_cons_of_mem _ member)⟩
      rcases mem_insertByName.1 member with rfl | among
      · exact after
      · exact first other among

/-- Entries with different names are in order after sorting. -/
theorem sorted_sortByName {α : Type} {entries : List (String × α)}
    (distinct : (entries.map (·.1)).Nodup) :
    (sortByName entries).Pairwise fun a b => a.1 < b.1 := by
  induction entries with
  | nil => exact .nil
  | cons entry rest ih =>
    obtain ⟨first, later⟩ := List.nodup_cons.1 distinct
    refine sorted_insertByName (ih later) fun other member same => first ?_
    exact List.mem_map.2 ⟨other, mem_sortByName.1 member, same⟩

/-! ### What is loaded -/

/-- Settings that a file can hold. -/
structure Storable (c : Config) : Prop where
  addresses : ∀ l ∈ c.listeners, l.address.Real
  idleTimeout : Duration.Bounded c.idleTimeout.nanoseconds
  positionBuffer : (Range.signed 64).holds c.positionBuffer = true
  ids : ∀ d ∈ c.devices, (Range.signed 64).holds d.id = true
  sorted : c.protocols.Pairwise fun a b => a.1 < b.1

variable {c d : Config} {j : Json}

/-- The settings of the server that were read. -/
theorem storable_readServer? (proper : j.Proper) (read : readServer? c j = some d)
    (storable : c.Storable) : d.Storable := by
  obtain ⟨r, known, read⟩ := Option.bind_eq_some_iff.1 read
  obtain ⟨listeners, first, read⟩ := Option.bind_eq_some_iff.1 read
  obtain ⟨idleTimeout, second, read⟩ := Option.bind_eq_some_iff.1 read
  obtain ⟨ignoreSessionCache, -, read⟩ := Option.bind_eq_some_iff.1 read
  obtain ⟨positionBuffer, last, read⟩ := Option.bind_eq_some_iff.1 read
  cases read
  refine { storable with addresses := ?_, idleTimeout := ?_, positionBuffer := ?_ }
  · rcases Json.Record.of_defaulted first with rfl | ⟨v, found, list⟩
    · exact storable.addresses
    · intro l member
      obtain ⟨w, -, element⟩ :=
        Json.of_asList? (Json.proper_of_field proper known found) list l member
      obtain ⟨r', -, element⟩ := Option.bind_eq_some_iff.1 element
      obtain ⟨protocol, -, element⟩ := Option.bind_eq_some_iff.1 element
      obtain ⟨transport, -, element⟩ := Option.bind_eq_some_iff.1 element
      obtain ⟨address, last, element⟩ := Option.bind_eq_some_iff.1 element
      cases element
      obtain ⟨u, -, text⟩ := Json.Record.of_required last
      obtain ⟨s, -, address⟩ := Option.bind_eq_some_iff.1 text
      exact SocketAddress.real_of_ofText? address
  · rcases Json.Record.of_defaulted second with rfl | ⟨v, -, text⟩
    · exact storable.idleTimeout
    · obtain ⟨s, -, span⟩ := Option.bind_eq_some_iff.1 text
      exact Duration.bounded_of_ofText? span
  · rcases Json.Record.of_defaulted last with rfl | ⟨v, found, number⟩
    · exact storable.positionBuffer
    · exact (Json.holds_of_asNat? (Json.proper_of_field proper known found) number).1

theorem storable_readDirectory? (proper : j.Proper) (read : readDirectory? c j = some d)
    (storable : c.Storable) : d.Storable := by
  obtain ⟨r, known, read⟩ := Option.bind_eq_some_iff.1 read
  obtain ⟨registerUnknown, -, read⟩ := Option.bind_eq_some_iff.1 read
  obtain ⟨devices, last, read⟩ := Option.bind_eq_some_iff.1 read
  cases read
  refine { storable with ids := ?_ }
  rcases Json.Record.of_defaulted last with rfl | ⟨v, found, list⟩
  · exact storable.ids
  · intro e member
    obtain ⟨w, proper', element⟩ :=
      Json.of_asList? (Json.proper_of_field proper known found) list e member
    obtain ⟨r', known', element⟩ := Option.bind_eq_some_iff.1 element
    obtain ⟨id, first, element⟩ := Option.bind_eq_some_iff.1 element
    obtain ⟨uniqueId, -, element⟩ := Option.bind_eq_some_iff.1 element
    cases element
    obtain ⟨u, found', number⟩ := Json.Record.of_required first
    exact (Json.holds_of_asNat? (Json.proper_of_field proper' known' found') number).1

theorem storable_readMedia? (read : readMedia? c j = some d) (storable : c.Storable) :
    d.Storable := by
  obtain ⟨r, -, read⟩ := Option.bind_eq_some_iff.1 read
  obtain ⟨mediaRoot, -, read⟩ := Option.bind_eq_some_iff.1 read
  cases read
  exact { storable with }

theorem storable_readLogging? (read : readLogging? c j = some d) (storable : c.Storable) :
    d.Storable := by
  obtain ⟨r, -, read⟩ := Option.bind_eq_some_iff.1 read
  obtain ⟨logLevel, -, read⟩ := Option.bind_eq_some_iff.1 read
  obtain ⟨logFormat, -, read⟩ := Option.bind_eq_some_iff.1 read
  obtain ⟨logColor, -, read⟩ := Option.bind_eq_some_iff.1 read
  cases read
  exact { storable with }

theorem keys_mapM {α β : Type} {read : β → Option α} {entries : List (String × β)}
    {found : List (String × α)}
    (known : entries.mapM (fun entry => (read entry.2).map (entry.1, ·)) = some found) :
    found.map (·.1) = entries.map (·.1) := by
  induction entries generalizing found with
  | nil =>
    cases known
    rfl
  | cons entry entries ih =>
    rw [List.mapM_cons] at known
    obtain ⟨y, first, known⟩ := Option.bind_eq_some_iff.1 known
    obtain ⟨ys, later, known⟩ := Option.bind_eq_some_iff.1 known
    obtain ⟨value, -, rfl⟩ := Option.map_eq_some_iff.1 first
    cases known
    rw [List.map_cons, List.map_cons, ih later]

theorem sorted_readProtocols? {protocols : List (String × ProtocolOptions)} (proper : j.Proper)
    (read : readProtocols? j = some protocols) : protocols.Pairwise fun a b => a.1 < b.1 := by
  cases proper with
  | object distinct all =>
    obtain ⟨found, known, rfl⟩ := Option.map_eq_some_iff.1 read
    exact sorted_sortByName (by rwa [keys_mapM known])
  | _ => cases read

theorem storable_default : default.Storable where
  addresses l member := absurd member List.not_mem_nil
  idleTimeout := show (Duration.ofSeconds 600).nanoseconds / Duration.second < 2 ^ 64 by decide
  positionBuffer := by decide
  ids d member := absurd member List.not_mem_nil
  sorted := .nil

/-- A section that may be missing leaves the settings storable. -/
theorem storable_defaulted {r : Json.Record} {name : String} {names : List String}
    {read : Json → Option Config} (proper : j.Proper) (known : Json.record? names j = some r)
    (storable : c.Storable) (keeps : ∀ v d, v.Proper → read v = some d → d.Storable)
    (found : r.defaulted name c read = some d) : d.Storable := by
  rcases Json.Record.of_defaulted found with rfl | ⟨v, field, result⟩
  · exact storable
  · exact keeps v d (Json.proper_of_field proper known field) result

theorem storable_ofJson? (proper : j.Proper) (read : ofJson? j = some c) : c.Storable := by
  obtain ⟨r, known, read⟩ := Option.bind_eq_some_iff.1 read
  obtain ⟨c₁, server, read⟩ := Option.bind_eq_some_iff.1 read
  obtain ⟨protocols, options, read⟩ := Option.bind_eq_some_iff.1 read
  obtain ⟨c₂, directory, read⟩ := Option.bind_eq_some_iff.1 read
  obtain ⟨c₃, media, logging⟩ := Option.bind_eq_some_iff.1 read
  have first : c₁.Storable := storable_defaulted proper known storable_default
    (fun v d proper read => storable_readServer? proper read storable_default) server
  have sorted : protocols.Pairwise fun a b => a.1 < b.1 := by
    rcases Json.Record.of_defaulted options with rfl | ⟨v, field, result⟩
    · exact .nil
    · exact sorted_readProtocols? (Json.proper_of_field proper known field) result
  have second : Storable { c₁ with protocols } := { first with sorted }
  have third : c₂.Storable := storable_defaulted proper known second
    (fun v d proper read => storable_readDirectory? proper read second) directory
  have fourth : c₃.Storable := storable_defaulted proper known third
    (fun v d _ read => storable_readMedia? read third) media
  exact storable_defaulted proper known fourth
    (fun v d _ read => storable_readLogging? read fourth) logging

theorem load_eq_ok_iff {text : String} :
    load text = .ok c ↔ (Toml.parse? text).bind ofJson? = some c ∧ c.validate = .ok () := by
  unfold load
  cases (Toml.parse? text).bind ofJson? with
  | none => simp
  | some d =>
    show (d.validate >>= fun _ => pure d) = .ok c ↔ some d = some c ∧ c.validate = .ok ()
    constructor
    · intro loaded
      cases valid : d.validate with
      | error fault =>
        rw [valid] at loaded
        cases loaded
      | ok _ =>
        rw [valid] at loaded
        cases loaded
        exact ⟨rfl, valid⟩
    · rintro ⟨same, valid⟩
      cases same
      rw [valid]
      rfl

end Config
end TrackerGateway
