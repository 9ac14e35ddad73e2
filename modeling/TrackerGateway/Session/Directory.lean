import TrackerGateway.Identity
import TrackerGateway.Error
import TrackerGateway.Table

/-!
# Device directories: from the identifier a device sends to the number it has here

A directory is anything that answers a look-up and goes on; an answer may be that the identifier is
not known, or that the directory failed. `DeviceList` is the directory held in memory, which on
request gives numbers to identifiers it has not seen.
-/

namespace TrackerGateway

/-- The answer of a directory. -/
inductive Lookup where
  | known (id : DeviceId)
  | unknown
  | failed (error : Error)
  deriving DecidableEq, Repr

/-- A directory whose states are of type `δ`. -/
class Directory (δ : Type) where
  /-- The answer for an identifier, and the directory afterwards. -/
  lookup : δ → String → Lookup × δ

/-- A directory that never changes is its answers. -/
instance : Directory (String → Lookup) := ⟨fun answers uniqueId => (answers uniqueId, answers)⟩

/-- A directory held in memory. -/
structure DeviceList where
  devices : Table String DeviceId
  /-- Whether an identifier that was not seen before gets a number. -/
  registersUnknown : Bool
  /-- The greatest number given so far. -/
  lastId : UInt64

namespace DeviceList

/-- A directory without devices. -/
def empty (registersUnknown : Bool) : DeviceList := ⟨[], registersUnknown, 0⟩

/-- Adds a device, or gives it another number. -/
def insert (list : DeviceList) (uniqueId : String) (id : DeviceId) : DeviceList :=
  { list with devices := Table.put list.devices uniqueId id, lastId := max list.lastId id.value }

/-- The directory of a list of devices. -/
def ofList (registersUnknown : Bool) (devices : List (String × DeviceId)) : DeviceList :=
  devices.foldl (fun list d => list.insert d.1 d.2) (empty registersUnknown)

/-- How many devices the directory knows. -/
def size (list : DeviceList) : Nat := list.devices.length

/-- Looks an identifier up; where wanted, one that is new gets the number after the last. -/
def lookup (list : DeviceList) (uniqueId : String) : Lookup × DeviceList :=
  match Table.get? list.devices uniqueId with
  | some id => (.known id, list)
  | none =>
    if list.registersUnknown then
      let id : DeviceId := ⟨list.lastId + 1⟩
      (.known id, { list with
        devices := Table.put list.devices uniqueId id
        lastId := list.lastId + 1 })
    else (.unknown, list)

instance : Directory DeviceList := ⟨lookup⟩

end DeviceList
end TrackerGateway
