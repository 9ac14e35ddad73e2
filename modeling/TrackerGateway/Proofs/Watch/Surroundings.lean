import TrackerGateway.Proofs.Text.Integers
import TrackerGateway.Proofs.Text.Pieces
import TrackerGateway.Watch.Surroundings

/-!
# What is read of the cell towers and access points that a device lists

`Listing` is such a list and `Listing.values` the values that a device writes for it. With blanks
around the values or not, all of the list is read (`ofText_values`). Where the text ends too
early, the towers and access points whose values are all there are read, and nothing else
(`network_ofText_cut`).
-/

namespace TrackerGateway.Watch

open Text (Padded)
open Text.Integer (Range)

/-- A tower in a list. -/
structure TowerEntry where
  cell : Nat
  area : Nat
  signal : Int
  cell_lt : cell < 2 ^ 63
  area_lt : area < 2 ^ 32
  signal_holds : (Range.signed 32).holds signal = true

/-- An access point in a list. -/
structure PointEntry where
  name : String
  address : String
  signal : Int
  name_clear : ',' ∉ name.toList
  address_clear : ',' ∉ address.toList
  address_trimmed : Text.trim address = address
  signal_holds : (Range.signed 32).holds signal = true

/-- What a device lists. A list is never as long as the numbers of 64 bits can count. -/
structure Listing where
  advance : String
  country : Nat
  network : Nat
  towers : List TowerEntry
  points : Option (List PointEntry)
  advance_clear : ',' ∉ advance.toList
  country_lt : country < 2 ^ 16
  network_lt : network < 2 ^ 16
  towers_lt : towers.length < 2 ^ 63
  points_lt : ∀ found ∈ points, found.length < 2 ^ 64

namespace TowerEntry

/-- The values of a tower. -/
def values (e : TowerEntry) : List String := [toString e.cell, toString e.area, toString e.signal]

/-- The tower that is listed, in a network of these codes. -/
def tower (country network : Nat) (e : TowerEntry) : CellTower :=
  { radioType := none
    mobileCountryCode := country
    mobileNetworkCode := network
    locationAreaCode := e.area
    cellId := e.cell
    signalStrength := some e.signal }

end TowerEntry

namespace PointEntry

/-- The values of an access point. -/
def values (e : PointEntry) : List String := [e.name, e.address, toString e.signal]

/-- The access point that is listed. -/
def point (e : PointEntry) : AccessPoint :=
  { macAddress := e.address
    signalStrength := some e.signal
    channel := none }

end PointEntry

namespace Listing

/-- The values of the access points, if any are listed. -/
def pointValues (l : Listing) : List String :=
  match l.points with
  | none => []
  | some points => toString points.length :: points.flatMap PointEntry.values

/-- The values of a list. -/
def values (l : Listing) : List String :=
  toString l.towers.length :: l.advance :: toString l.country :: toString l.network ::
    (l.towers.flatMap TowerEntry.values ++ l.pointValues)

/-- The network that is listed. -/
def seen (l : Listing) : Network :=
  ⟨l.towers.map (TowerEntry.tower l.country l.network), (l.points.getD []).map PointEntry.point⟩

end Listing

namespace Surroundings

/-- What may come behind the last value of a text that is cut: a comma, and so an empty value, or
nothing. -/
def Stub (tail : List String) : Prop := tail = [] ∨ tail = [""]

/-! ### Entries of three values -/

section Triples

variable {α β : Type} {read? : String → String → String → Option α} {values : β → List String}
  {found : β → α}

/-- Three values are read as something, which the last of them is needed for. -/
def Reads (read? : String → String → String → Option α) (values : List String) (thing : α) : Prop :=
  ∃ first second third, values = [first, second, third] ∧ read? first second third = some thing ∧
    read? first second "" = none

/-- All entries are read where all their values are there, and what follows is left. -/
theorem readTriples_append (reads : ∀ e, Reads read? (values e) (found e)) (entries : List β)
    (rest : List String) :
    readTriples read? entries.length (entries.flatMap values ++ rest) =
        (entries.map found, some rest) := by
  induction entries with
  | nil => rfl
  | cons e entries ih =>
    obtain ⟨first, second, third, shape, known, -⟩ := reads e
    rw [List.length_cons, List.flatMap_cons, shape, List.append_assoc, List.cons_append,
      List.cons_append, List.cons_append, List.nil_append, readTriples, known]
    simp only [ih, List.map_cons]

/-- Where the text ends within the entries, those that are whole are read. -/
theorem readTriples_cut (reads : ∀ e, Reads read? (values e) (found e)) {entries : List β} {n : Nat}
    {tail : List String} (within : n < 3 * entries.length) (stub : Stub tail) :
    readTriples read? entries.length ((entries.flatMap values).take n ++ tail) =
      ((entries.map found).take (n / 3), none) := by
  induction entries generalizing n with
  | nil => cases within
  | cons e entries ih =>
    obtain ⟨first, second, third, shape, known, needed⟩ := reads e
    rw [List.length_cons, List.flatMap_cons, shape, List.cons_append, List.cons_append,
      List.cons_append, List.nil_append]
    match n with
    | 0 => rcases stub with rfl | rfl <;> rfl
    | 1 => rcases stub with rfl | rfl <;> rfl
    | 2 =>
      rcases stub with rfl | rfl
      · rfl
      · rw [List.take_succ_cons, List.take_succ_cons, List.take_zero, List.cons_append,
          List.cons_append, List.nil_append, readTriples, needed]
        rfl
    | n + 3 =>
      rw [List.take_succ_cons, List.take_succ_cons, List.take_succ_cons, List.cons_append,
        List.cons_append, List.cons_append, readTriples, known]
      have fewer : n < 3 * entries.length := by
        rw [List.length_cons] at within
        omega
      simp only [ih fewer, List.map_cons]
      rw [show (n + 3) / 3 = n / 3 + 1 by omega, List.take_succ_cons]

theorem length_flatMap_values (reads : ∀ e, Reads read? (values e) (found e)) (entries : List β) :
    (entries.flatMap values).length = 3 * entries.length := by
  have three (e : β) : (values e).length = 3 := by
    obtain ⟨first, second, third, shape, -⟩ := reads e
    rw [shape]
    rfl
  rw [List.length_flatMap, List.map_congr_left fun e _ => three e, List.map_const',
    List.sum_replicate]
  exact Nat.mul_comm _ _

/-- Of the first values of the entries, as many entries are read as have all their values there. -/
theorem readTriples_take (reads : ∀ e, Reads read? (values e) (found e)) (entries : List β)
    (n : Nat) {tail : List String} (stub : Stub tail) :
    (readTriples read? entries.length ((entries.flatMap values).take n ++ tail)).1 =
      (entries.map found).take (n / 3) := by
  rcases Nat.lt_or_ge n (3 * entries.length) with within | all
  · rw [readTriples_cut reads within stub]
  · rw [List.take_of_length_le (by rw [length_flatMap_values reads]; exact all),
      readTriples_append reads, List.take_of_length_le (by rw [List.length_map]; omega)]

end Triples

/-! ### The parts of a list -/

theorem number?_toString {range : Range} {k : Int} (small : (Range.signed 64).holds k = true)
    (inside : range.holds k = true) : number? range (toString k) = some k := by
  rw [number?, Text.Integer.decimal?_toString (by decide) (by decide) small, Option.filter_some,
    if_pos inside]

theorem number?_toString_nat {range : Range} {n : Nat} (small : n < 2 ^ 63)
    (inside : range.holds n = true) : number? range (toString n) = some (n : Int) :=
  number?_toString (k := n) (Text.Integer.holds_signed_natCast_iff.2 small) inside

theorem unsigned?_toString {bits n : Nat} (small : n < 2 ^ 63) (inside : n < 2 ^ bits) :
    unsigned? bits (toString n) = some n := by
  rw [unsigned?, number?_toString_nat small (Text.Integer.holds_unsigned_iff.2 inside),
    Option.map_some, Int.toNat_natCast]

theorem holds_signed_64 {k : Int} (small : (Range.signed 32).holds k = true) :
    (Range.signed 64).holds k = true := by
  rw [Text.Integer.holds_iff] at small ⊢
  exact ⟨Int.le_trans (by decide) small.1, Int.le_trans small.2 (by decide)⟩

theorem reads_tower (country network : Nat) (e : TowerEntry) :
    Reads (tower? country network) e.values (e.tower country network) := by
  refine ⟨_, _, _, rfl, ?_, ?_⟩
  · rw [tower?, unsigned?_toString e.cell_lt (Nat.lt_trans e.cell_lt (by decide)),
      unsigned?_toString (Nat.lt_trans e.area_lt (by decide)) e.area_lt,
      number?_toString (holds_signed_64 e.signal_holds) e.signal_holds]
    rfl
  · rw [tower?, unsigned?_toString e.cell_lt (Nat.lt_trans e.cell_lt (by decide)),
      unsigned?_toString (Nat.lt_trans e.area_lt (by decide)) e.area_lt]
    rfl

/-- The name of an access point plays no part. -/
theorem reads_point (e : PointEntry) :
    Reads (fun _ address signal => accessPoint? address signal)
        (e.values.map Text.trim) e.point := by
  refine ⟨Text.trim e.name, e.address, toString e.signal, ?_, ?_, rfl⟩
  · rw [PointEntry.values, List.map_cons, List.map_cons, List.map_singleton, e.address_trimmed,
      Text.Integer.trim_toString]
  · show accessPoint? e.address (toString e.signal) = some e.point
    rw [accessPoint?, Text.Integer.decimal?_toString (by decide) (by decide) e.signal_holds]
    rfl

theorem map_trim_values (e : TowerEntry) : e.values.map Text.trim = e.values := by
  rw [TowerEntry.values, List.map_cons, List.map_cons, List.map_singleton,
    Text.Integer.trim_toString_nat, Text.Integer.trim_toString_nat, Text.Integer.trim_toString]

/-! ### All of a list -/

/-- The values of a list without the blanks around them. -/
theorem trimmed_values (l : Listing) :
    l.values.map Text.trim = toString l.towers.length :: Text.trim l.advance ::
      toString l.country :: toString l.network ::
          (l.towers.flatMap TowerEntry.values ++ l.pointValues.map Text.trim) := by
  simp only [Listing.values, List.map_cons, List.map_append, List.map_flatMap,
    Text.Integer.trim_toString_nat, map_trim_values]

theorem trimmed_pointValues {l : Listing} {points : List PointEntry}
    (listed : l.points = some points) :
    l.pointValues.map Text.trim =
      toString points.length :: points.flatMap fun e => e.values.map Text.trim := by
  rw [Listing.pointValues, listed]
  simp only [List.map_cons, List.map_flatMap, Text.Integer.trim_toString_nat]

theorem ofValues_listing (l : Listing) (values : List String) :
    ofValues (toString l.towers.length :: Text.trim l.advance :: toString l.country ::
      toString l.network :: values) = readTowers l.towers.length l.country l.network values := by
  rw [ofValues, number?_toString_nat l.towers_lt
    (Text.Integer.holds_signed_natCast_iff.2 l.towers_lt),
    unsigned?_toString (Nat.lt_trans l.country_lt (by decide)) l.country_lt,
    unsigned?_toString (Nat.lt_trans l.network_lt (by decide)) l.network_lt]

/-- After their number, the access points are read, as many as it says. -/
theorem readAccessPoints_count {count : Nat} (small : count < 2 ^ 64) (values : List String) :
    readAccessPoints (toString count :: values) =
      ((readTriples (fun _ address signal => accessPoint? address signal) count values).1,
        (readTriples (fun _ address signal => accessPoint? address signal) count
            values).2.isSome) := by
  have greatest : (Range.unsigned 64).greatest = ((2 ^ 64 : Nat) : Int) - 1 := rfl
  have number : Text.Integer.decimal? (.unsigned 64) (toString count) = some (count : Int) :=
    Text.Integer.decimal?_toString_nat (by rw [greatest]; omega)
  have written : (toString count).isEmpty = false := by
    rw [← Bool.not_eq_true, String.isEmpty_iff, ← String.toList_inj]
    simp [Nat.toDigits_ne_nil]
  rw [readAccessPoints, written, number]
  rfl

theorem readAccessPoints_values (l : Listing) :
    readAccessPoints (l.pointValues.map Text.trim) = (l.seen.accessPoints, true) := by
  rw [Listing.seen]
  cases listed : l.points with
  | none =>
    rw [Listing.pointValues, listed]
    rfl
  | some points =>
    have all := readTriples_append reads_point points []
    rw [List.append_nil] at all
    rw [trimmed_pointValues listed, readAccessPoints_count (l.points_lt points listed), all]
    rfl

/-- An empty value in place of the number of access points says that there are none. -/
theorem readAccessPoints_tail {tail : List String} (stub : Stub tail) :
    readAccessPoints tail = ([], true) := by
  rcases stub with rfl | rfl <;> rfl

theorem readAccessPoints_take (l : Listing) (n : Nat) {tail : List String} (stub : Stub tail) :
    (readAccessPoints ((l.pointValues.map Text.trim).take n ++ tail)).1 =
      l.seen.accessPoints.take ((n - 1) / 3) := by
  rw [Listing.seen]
  cases listed : l.points with
  | none =>
    rw [Listing.pointValues, listed, List.map_nil, List.take_nil, List.nil_append,
      readAccessPoints_tail stub, Option.getD_none, List.map_nil, List.take_nil]
  | some points =>
    rw [trimmed_pointValues listed]
    cases n with
    | zero =>
      rw [List.take_zero, List.nil_append, readAccessPoints_tail stub]
      rfl
    | succ n =>
      rw [List.take_succ_cons, List.cons_append, readAccessPoints_count (l.points_lt points listed),
        readTriples_take reads_point points n stub]
      rfl

/-- After all towers come the access points. -/
theorem readTowers_append (l : Listing) (rest : List String) :
    readTowers l.towers.length l.country l.network (l.towers.flatMap TowerEntry.values ++ rest) =
      ⟨⟨l.seen.cellTowers, (readAccessPoints rest).1⟩, (readAccessPoints rest).2⟩ := by
  rw [readTowers, if_neg (by omega), Int.toNat_natCast,
    readTriples_append (reads_tower l.country l.network) l.towers rest]
  rfl

theorem readTowers_cut (l : Listing) {n : Nat} {tail : List String}
    (within : n < 3 * l.towers.length) (stub : Stub tail) :
    readTowers l.towers.length l.country l.network
      ((l.towers.flatMap TowerEntry.values).take n ++ tail) =
      ⟨⟨l.seen.cellTowers.take (n / 3), []⟩, false⟩ := by
  rw [readTowers, if_neg (by omega), Int.toNat_natCast,
    readTriples_cut (reads_tower l.country l.network) within stub]
  rfl

/-- Nothing is read where the code of the network is not there. -/
theorem network_ofValues_header {header tail : List String} (short : header.length < 4)
    (stub : Stub tail) : (ofValues (header ++ tail)).network = .empty := by
  match header with
  | [] | [_] | [_, _] => rcases stub with rfl | rfl <;> rfl
  | [count, advance, country] =>
    rcases stub with rfl | rfl
    · rfl
    · have empty : unsigned? 16 "" = none := rfl
      show (ofValues [count, advance, country, ""]).network = .empty
      rw [ofValues, empty]
      split
      · rename_i found
        cases found
      · rfl

/-- What is read of a list whose values end with the first so many, after which one may begin. -/
theorem network_ofValues_take (l : Listing) (n : Nat) {tail : List String} (stub : Stub tail) :
    (ofValues ((l.values.map Text.trim).take n ++ tail)).network =
      ⟨l.seen.cellTowers.take ((n - 4) / 3),
        l.seen.accessPoints.take ((n - 5 - 3 * l.towers.length) / 3)⟩ := by
  have towerValues := length_flatMap_values (reads_tower l.country l.network) l.towers
  rw [trimmed_values]
  rcases Nat.lt_or_ge n 4 with header | header
  · rw [network_ofValues_header (Nat.lt_of_le_of_lt (List.length_take_le n _) header) stub,
      show (n - 4) / 3 = 0 by omega, show (n - 5 - 3 * l.towers.length) / 3 = 0 by omega]
    rfl
  · obtain ⟨n, rfl⟩ := Nat.exists_eq_add_of_le' header
    rw [List.take_succ_cons, List.take_succ_cons, List.take_succ_cons, List.take_succ_cons,
      List.cons_append,
      List.cons_append, List.cons_append, List.cons_append, ofValues_listing, List.take_append,
      towerValues]
    rcases Nat.lt_or_ge n (3 * l.towers.length) with within | all
    · rw [show n - 3 * l.towers.length = 0 by omega, List.take_zero, List.append_nil,
        readTowers_cut l within stub, show n + 4 - 5 - 3 * l.towers.length = 0 by omega]
      rfl
    · have whole : l.seen.cellTowers.take (n / 3) = l.seen.cellTowers :=
        List.take_of_length_le (by rw [Listing.seen, List.length_map]; omega)
      rw [List.take_of_length_le (by omega), List.append_assoc, readTowers_append,
        readAccessPoints_take l _ stub, Nat.add_sub_cancel, whole,
        show n + 4 - 5 - 3 * l.towers.length = n - 3 * l.towers.length - 1 by omega]

/-- All values of a list are read. -/
theorem ofValues_values (l : Listing) : ofValues (l.values.map Text.trim) = ⟨l.seen, true⟩ := by
  rw [trimmed_values, ofValues_listing, readTowers_append, readAccessPoints_values]

/-! ### Lists as text -/

theorem ofText_intercalate {fields : List String} (there : fields ≠ [])
    (clear : ∀ field ∈ fields, ',' ∉ field.toList) :
    ofText (",".intercalate fields) = ofValues (fields.map Text.trim) := by
  rw [ofText, show "," = String.singleton ',' from rfl, Text.splitAt_intercalate there clear]

theorem clear_toString (k : Int) : ',' ∉ (toString k).toList := by
  intro member
  rcases Text.Integer.eq_minus_or_isDigit member with minus | isDigit
  · exact absurd minus (by decide)
  · exact absurd isDigit (by decide)

theorem clear_values (l : Listing) : ∀ value ∈ l.values, ',' ∉ value.toList := by
  have nat (n : Nat) : ',' ∉ (toString n).toList := clear_toString n
  have towers : ∀ value ∈ l.towers.flatMap TowerEntry.values, ',' ∉ value.toList := by
    intro value member
    obtain ⟨e, -, here⟩ := List.mem_flatMap.1 member
    simp only [TowerEntry.values, List.mem_cons, List.not_mem_nil, or_false] at here
    rcases here with rfl | rfl | rfl
    · exact nat e.cell
    · exact nat e.area
    · exact clear_toString e.signal
  have points : ∀ value ∈ l.pointValues, ',' ∉ value.toList := by
    rw [Listing.pointValues]
    cases l.points with
    | none => simp
    | some points =>
      refine List.forall_mem_cons.2 ⟨nat points.length, fun value member => ?_⟩
      obtain ⟨e, -, here⟩ := List.mem_flatMap.1 member
      simp only [PointEntry.values, List.mem_cons, List.not_mem_nil, or_false] at here
      rcases here with rfl | rfl | rfl
      · exact e.name_clear
      · exact e.address_clear
      · exact clear_toString e.signal
  simp only [Listing.values, List.forall_mem_cons, List.forall_mem_append]
  exact ⟨nat _, l.advance_clear, nat _, nat _, towers, points⟩

theorem map_trim_of_padded {values fields : List String}
    (spelled : List.Forall₂ Padded values fields) :
    fields.map Text.trim = values.map Text.trim := by
  induction spelled with
  | nil => rfl
  | cons padded _ ih => rw [List.map_cons, List.map_cons, ih, padded.trim_eq]

theorem clear_of_padded {values fields : List String} (spelled : List.Forall₂ Padded values fields)
    (clear : ∀ value ∈ values, ',' ∉ value.toList) : ∀ field ∈ fields, ',' ∉ field.toList := by
  induction spelled with
  | nil => exact clear
  | cons padded _ ih =>
    obtain ⟨first, others⟩ := List.forall_mem_cons.1 clear
    exact List.forall_mem_cons.2 ⟨padded.notMem rfl first, ih others⟩

/-- The text of the first `n` values, with a comma after the last of them or without one. -/
def cut (fields : List String) (n : Nat) (comma : Bool) : String :=
  ",".intercalate (fields.take n ++ if comma then [""] else [])

theorem ofText_cut {fields : List String} (clear : ∀ field ∈ fields, ',' ∉ field.toList) (n : Nat)
    (comma : Bool) : ∃ tail, Stub tail ∧
      ofText (cut fields n comma) = ofValues ((fields.map Text.trim).take n ++ tail) := by
  have blank : Text.trim "" = "" := rfl
  have taken : ∀ field ∈ fields.take n, ',' ∉ field.toList := fun field member =>
    clear field (List.mem_of_mem_take member)
  by_cases comma_left : comma = true
  · refine ⟨[""], .inr rfl, ?_⟩
    rw [cut, if_pos comma_left, ofText_intercalate (by simp)
      (List.forall_mem_append.2 ⟨taken, by simp⟩), List.map_append, List.map_take,
      List.map_singleton, blank]
  · rw [cut, if_neg comma_left, List.append_nil]
    cases some_left : fields.take n with
    | nil =>
      -- No value at all is written as one empty value is.
      refine ⟨[""], .inr rfl, ?_⟩
      rw [← List.map_take, some_left]
      rfl
    | cons field rest =>
      refine ⟨[], .inl rfl, ?_⟩
      rw [← some_left, ofText_intercalate (by rw [some_left]; exact List.cons_ne_nil _ _) taken,
        List.map_take, List.append_nil]

/-- What is read of a text that is cut: the towers and access points whose values are all there. -/
theorem network_ofText_cut (l : Listing) {fields : List String}
    (spelled : List.Forall₂ Padded l.values fields) (n : Nat) (comma : Bool) :
    (ofText (cut fields n comma)).network =
      ⟨l.seen.cellTowers.take ((n - 4) / 3),
        l.seen.accessPoints.take ((n - 5 - 3 * l.towers.length) / 3)⟩ := by
  obtain ⟨tail, stub, read⟩ := ofText_cut (clear_of_padded spelled (clear_values l)) n comma
  rw [read, map_trim_of_padded spelled, network_ofValues_take l n stub]

/-- A list is read as it is written, whatever blanks stand around its values. Where its text is
cut after some of the values, the towers that are read are the first ones and so are the access
points, and access points are read only after all the towers. -/
theorem ofText_values (l : Listing) {fields : List String}
    (spelled : List.Forall₂ Padded l.values fields) :
    ofText (",".intercalate fields) = ⟨l.seen, true⟩ ∧
      ∀ (n : Nat) (comma : Bool),
        (ofText (cut fields n comma)).network.cellTowers <+: l.seen.cellTowers ∧
        (ofText (cut fields n comma)).network.accessPoints <+: l.seen.accessPoints ∧
        ((ofText (cut fields n comma)).network.accessPoints ≠ [] →
          (ofText (cut fields n comma)).network.cellTowers = l.seen.cellTowers) := by
  have clear := clear_of_padded spelled (clear_values l)
  constructor
  · have there : fields ≠ [] := by
      rintro rfl
      cases spelled
    rw [ofText_intercalate there clear, map_trim_of_padded spelled, ofValues_values]
  · intro n comma
    rw [network_ofText_cut l spelled]
    refine ⟨List.take_prefix _ _, List.take_prefix _ _, fun found => List.take_of_length_le ?_⟩
    -- A point that is read has values behind all values of the towers.
    have behind : (n - 5 - 3 * l.towers.length) / 3 ≠ 0 := by
      intro none_left
      rw [none_left] at found
      exact found rfl
    rw [Listing.seen, List.length_map]
    omega

/-- A tower that is listed twice, and an access point. -/
def sampleListing : Listing :=
  { advance := "0"
    country := 460
    network := 1
    towers :=
      [⟨4082, 9360, -61, by decide, by decide, by decide⟩,
        ⟨4082, 9360, -61, by decide, by decide, by decide⟩]
    points := some [⟨"home net", "9e:46:be", -70, by decide, by decide, by decide, by decide⟩]
    advance_clear := by decide
    country_lt := by decide
    network_lt := by decide
    towers_lt := by decide
    points_lt := by simp }

def sampleFields : List String :=
  ["2", " 0", "460", "1", "4082", "9360", " -61 ", "4082", "9360", "-61", "1", "home net",
    "9e:46:be ", "-70"]

theorem ofText_sampleFields :
    List.Forall₂ Padded sampleListing.values sampleFields ∧
      ofText (",".intercalate sampleFields) =
        ⟨⟨[⟨none, 460, 1, 9360, 4082, some (-61)⟩, ⟨none, 460, 1, 9360, 4082, some (-61)⟩],
          [⟨"9e:46:be", some (-70), none⟩]⟩, true⟩ ∧
      (ofText (cut sampleFields 13 true)).network.accessPoints <+:
        [⟨"9e:46:be", some (-70), none⟩] := by
  have spelled : List.Forall₂ Padded sampleListing.values sampleFields := by
    have written : sampleListing.values = ["2", "0", "460", "1", "4082", "9360", "-61", "4082",
        "9360", "-61", "1", "home net", "9e:46:be", "-70"] := by decide
    have bare (text : String) : Padded text text := .refl text
    have space : ∀ c ∈ [' '], Text.isBlank c = true := List.forall_mem_singleton.2 rfl
    have none_there : ∀ c ∈ ([] : List Char), Text.isBlank c = true := List.forall_mem_nil _
    rw [written]
    exact .cons (bare "2") <| .cons ⟨[' '], [], space, none_there, by decide⟩ <|
      .cons (bare "460") <| .cons (bare "1") <| .cons (bare "4082") <| .cons (bare "9360") <|
      .cons ⟨[' '], [' '], space, space, by decide⟩ <| .cons (bare "4082") <| .cons (bare "9360") <|
      .cons (bare "-61") <| .cons (bare "1") <| .cons (bare "home net") <|
      .cons ⟨[], [' '], none_there, space, by decide⟩ <| .cons (bare "-70") .nil
  exact ⟨spelled, (ofText_values sampleListing spelled).1,
    ((ofText_values sampleListing spelled).2 13 true).2.1⟩

end Surroundings

end TrackerGateway.Watch
