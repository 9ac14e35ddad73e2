import TrackerGateway.Bytes.Hex
import TrackerGateway.Error
import TrackerGateway.Table
import TrackerGateway.Text.Category

/-!
# Storage for pictures and voice messages

A store takes a device's data and answers a reference to them. `MediaLibrary` keeps everything in
memory and numbers what it stores, so no reference comes twice before the numbers do; `FileLibrary`
describes files in one directory a device, with names drawn from outside.
-/

namespace TrackerGateway

/-- A store whose states are of type `μ`. -/
class MediaStore (μ : Type) where
  /-- The reference to the stored data, or why they could not be stored, and the store
  afterwards. -/
  store : μ → (uniqueId : String) → (data : Bytes) → (extension : String) → Except Error String × μ

/-- A store held in memory. -/
structure MediaLibrary where
  files : Table String Bytes
  /-- How many times something was stored, counted in 64 bits. -/
  stored : UInt64

namespace MediaLibrary

/-- A store with nothing in it. -/
def empty : MediaLibrary := ⟨[], 0⟩

/-- The reference to the data stored as the `number`-th. -/
def reference (uniqueId : String) (number : UInt64) (extension : String) : String :=
  s!"{uniqueId}/{number}.{extension}"

/-- Stores data under a new reference. -/
def store (library : MediaLibrary) (uniqueId : String) (data : Bytes) (extension : String) :
    String × MediaLibrary :=
  let name := reference uniqueId (library.stored + 1) extension
  (name, ⟨Table.put library.files name data, library.stored + 1⟩)

/-- The data under a reference. -/
def get? (library : MediaLibrary) (reference : String) : Option Bytes :=
  Table.get? library.files reference

/-- How many files there are. -/
def size (library : MediaLibrary) : Nat := library.files.length

instance : MediaStore MediaLibrary :=
  ⟨fun library uniqueId data extension =>
    let (reference, library) := library.store uniqueId data extension
    (.ok reference, library)⟩

end MediaLibrary

/-- Files below one root, by their paths. -/
structure FileLibrary where
  files : Table String Bytes
  /-- The number that names the next file, below 2 ^ 128. -/
  nextName : Nat

namespace FileLibrary

/-- Whether a character may stand in a file name. -/
def isPlain (c : Char) : Bool := Text.isAsciiLetter c || Text.isAsciiDigit c || c == '-' || c == '_'

/-- One component of a path: whatever is not plain becomes an underscore. -/
def component (text : String) : String := text.map fun c => if isPlain c then c else '_'

/-- The name of a file, of thirty-two hexadecimal digits and an extension. -/
def fileName (name : Nat) (extension : String) : String :=
  s!"{String.ofList (Hex.padded 32 name)}.{component extension}"

/-- Stores data in the device's directory. -/
def store (library : FileLibrary) (uniqueId : String) (data : Bytes) (extension : String) :
    String × FileLibrary :=
  let path := s!"{component uniqueId}/{fileName library.nextName extension}"
  (path, ⟨Table.put library.files path data, library.nextName + 1⟩)

instance : MediaStore FileLibrary :=
  ⟨fun library uniqueId data extension =>
    let (reference, library) := library.store uniqueId data extension
    (.ok reference, library)⟩

end FileLibrary
end TrackerGateway
