import TrackerGateway.Json.Record

/-!
# Cell towers and wireless access points that a device saw, in the order in which it saw them
-/

namespace TrackerGateway

/-- A cell tower. -/
structure CellTower where
  radioType : Option String
  mobileCountryCode : Nat
  mobileNetworkCode : Nat
  locationAreaCode : Nat
  cellId : Nat
  signalStrength : Option Int
  deriving DecidableEq, Repr

/-- A wireless access point. -/
structure AccessPoint where
  macAddress : String
  signalStrength : Option Int
  channel : Option Nat
  deriving DecidableEq, Repr

/-- What a device saw of the networks around it. -/
structure Network where
  cellTowers : List CellTower
  accessPoints : List AccessPoint
  deriving DecidableEq, Repr

open Text.Integer (Range)

/-- A member that is left out where there is no value. -/
def Json.ifSome {α : Type} (name : String) (toJson : α → Json) : Option α → List (String × Json)
  | some value => [(name, toJson value)]
  | none => []

/-- An unsigned number of so many bits. -/
def Json.asNat? (bits : Nat) (j : Json) : Option Nat :=
  (Json.asInteger? (Range.unsigned bits) j).map Int.toNat

namespace CellTower

/-- A tower in JSON. -/
def toJson (t : CellTower) : Json :=
  .object <| Json.ifSome "radioType" .text t.radioType ++
    [("mobileCountryCode", .integer t.mobileCountryCode),
      ("mobileNetworkCode", .integer t.mobileNetworkCode),
      ("locationAreaCode", .integer t.locationAreaCode),
      ("cellId", .integer t.cellId)] ++
    Json.ifSome "signalStrength" .integer t.signalStrength

/-- Reads a tower. -/
def ofJson? (j : Json) : Option CellTower := do
  let r ← Json.record? ["radioType", "mobileCountryCode", "mobileNetworkCode", "locationAreaCode",
    "cellId", "signalStrength"] j
  let radioType ← r.optional "radioType" Json.asText?
  let mobileCountryCode ← r.required "mobileCountryCode" (Json.asNat? 16)
  let mobileNetworkCode ← r.required "mobileNetworkCode" (Json.asNat? 16)
  let locationAreaCode ← r.required "locationAreaCode" (Json.asNat? 32)
  let cellId ← r.required "cellId" (Json.asNat? 64)
  let signalStrength ← r.optional "signalStrength" (Json.asInteger? (Range.signed 32))
  some { radioType, mobileCountryCode, mobileNetworkCode, locationAreaCode, cellId, signalStrength }

end CellTower

namespace AccessPoint

/-- An access point in JSON. -/
def toJson (a : AccessPoint) : Json :=
  .object <| ("macAddress", .text a.macAddress) ::
    Json.ifSome "signalStrength" .integer a.signalStrength ++
    Json.ifSome "channel" (fun n => .integer n) a.channel

/-- Reads an access point. -/
def ofJson? (j : Json) : Option AccessPoint := do
  let r ← Json.record? ["macAddress", "signalStrength", "channel"] j
  let macAddress ← r.required "macAddress" Json.asText?
  let signalStrength ← r.optional "signalStrength" (Json.asInteger? (Range.signed 32))
  let channel ← r.optional "channel" (Json.asNat? 16)
  some { macAddress, signalStrength, channel }

end AccessPoint

namespace Network

/-- Nothing seen. -/
def empty : Network := ⟨[], []⟩

/-- Whether nothing was seen. -/
def isEmpty (n : Network) : Bool := n.cellTowers.isEmpty && n.accessPoints.isEmpty

/-- The network with one more tower at the end. -/
def addTower (n : Network) (t : CellTower) : Network := { n with cellTowers := n.cellTowers ++ [t] }

/-- The network with one more access point at the end. -/
def addAccessPoint (n : Network) (a : AccessPoint) : Network :=
  { n with accessPoints := n.accessPoints ++ [a] }

/-- A network in JSON; an empty list is left out. -/
def toJson (n : Network) : Json :=
  let part (name : String) (elements : List Json) : List (String × Json) :=
    if elements.isEmpty then [] else [(name, .list elements)]
  .object (part "cellTowers" (n.cellTowers.map CellTower.toJson) ++
    part "wifiAccessPoints" (n.accessPoints.map AccessPoint.toJson))

/-- Reads a network. -/
def ofJson? (j : Json) : Option Network := do
  let r ← Json.record? ["cellTowers", "wifiAccessPoints"] j
  let cellTowers ← r.defaulted "cellTowers" [] (Json.asList? CellTower.ofJson?)
  let accessPoints ← r.defaulted "wifiAccessPoints" [] (Json.asList? AccessPoint.ofJson?)
  some { cellTowers, accessPoints }

end Network
end TrackerGateway
