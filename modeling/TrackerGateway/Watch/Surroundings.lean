import TrackerGateway.Network
import TrackerGateway.Text.Trim

/-!
# The cell towers and access points at the end of a watch report

They come as values between commas: the number of towers, the timing advance, the codes of country
and network, three values for each tower, then the number of access points and three values for
each. The last part may be missing. What cannot be read ends the reading, and what was read before
it stays.
-/

namespace TrackerGateway.Watch

/-- What could be read of a block, and whether that was all of it. -/
structure Surroundings where
  network : Network
  complete : Bool
  deriving DecidableEq, Repr

namespace Surroundings

open Text.Integer (Range)

/-- A signed number of 64 bits that lies in a range. -/
def number? (range : Range) (value : String) : Option Int :=
  (Text.Integer.decimal? (.signed 64) value).filter range.holds

/-- An unsigned number of so many bits. -/
def unsigned? (bits : Nat) (value : String) : Option Nat :=
  (number? (.unsigned bits) value).map Int.toNat

/-- The tower of three values. -/
def tower? (country network : Nat) (cell area signal : String) : Option CellTower := do
  some
    { radioType := none
      mobileCountryCode := country
      mobileNetworkCode := network
      cellId := ← unsigned? 64 cell
      locationAreaCode := ← unsigned? 32 area
      signalStrength := some (← number? (.signed 32) signal) }

/-- The access point of an address and a signal. -/
def accessPoint? (address signal : String) : Option AccessPoint := do
  some
    { macAddress := address
      signalStrength := some (← Text.Integer.decimal? (.signed 32) signal)
      channel := none }

/-- Reads so many things of three values each, and the values after them if all could be read. -/
def readTriples {α : Type} (read? : String → String → String → Option α) :
    Nat → List String → List α × Option (List String)
  | 0, values => ([], some values)
  | count + 1, first :: second :: third :: values =>
    match read? first second third with
    | some found =>
      let (more, rest) := readTriples read? count values
      (found :: more, rest)
    | none => ([], none)
  | _ + 1, _ => ([], none)

/-- Reads the access points. -/
def readAccessPoints : List String → List AccessPoint × Bool
  | [] => ([], true)
  | count :: values =>
    if count.isEmpty then ([], true)
    else
      match Text.Integer.decimal? (.unsigned 64) count with
      | none => ([], false)
      | some count =>
        let (points, rest) :=
          readTriples (fun _ address signal => accessPoint? address signal) count.toNat values
        (points, rest.isSome)

/-- Reads the towers of known codes, then the access points. -/
def readTowers (count : Int) (country network : Nat) (values : List String) : Surroundings :=
  if count < 0 then ⟨.empty, false⟩
  else
    match readTriples (tower? country network) count.toNat values with
    | (towers, none) => ⟨⟨towers, []⟩, false⟩
    | (towers, some values) =>
      let (points, complete) := readAccessPoints values
      ⟨⟨towers, points⟩, complete⟩

/-- Reads the values of a block. -/
def ofValues : List String → Surroundings
  | count :: _advance :: country :: network :: values =>
    match number? (.signed 64) count, unsigned? 16 country, unsigned? 16 network with
    | some count, some country, some network => readTowers count country network values
    | _, _, _ => ⟨.empty, false⟩
  | _ => ⟨.empty, false⟩

/-- Reads a block. -/
def ofText (block : String) : Surroundings := ofValues ((Text.splitAt ',' block).map Text.trim)

end Surroundings
end TrackerGateway.Watch
