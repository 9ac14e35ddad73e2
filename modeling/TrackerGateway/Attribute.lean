import TrackerGateway.Decimal.Shortest
import TrackerGateway.Bytes.Basic
import TrackerGateway.Json.Record
import TrackerGateway.Table

/-!
# Attribute values: what positions report and commands take beside their fixed fields
-/

namespace TrackerGateway

/-- A value of one of four kinds. Integers are signed numbers of 64 bits. -/
inductive Attribute where
  | bool (value : Bool)
  | integer (value : Int)
  | double (value : Float)
  | text (value : String)

/-- Values by name. -/
abbrev Attributes := Table String Attribute

namespace Attribute

/-- The value of an unsigned number of 64 bits, taken as signed. -/
def ofUnsigned (n : Nat) : Attribute := .integer (Bytes.signed 64 n)

/-- The value as text. -/
def toText : Attribute → String
  | .bool value => if value then "true" else "false"
  | .integer value => toString value
  | .double value => Decimal.display value
  | .text value => value

/-- The integer, of an integer. -/
def integer? : Attribute → Option Int
  | .integer value => some value
  | _ => none

/-- The number, of an integer or a double. -/
def number? : Attribute → Option Float
  | .integer value => some (Json.floatOfInt value)
  | .double value => some value
  | _ => none

/-- The text, of a text. -/
def text? : Attribute → Option String
  | .text value => some value
  | _ => none

/-- The truth value, of a truth value. -/
def bool? : Attribute → Option Bool
  | .bool value => some value
  | _ => none

/-- The value in JSON. -/
def toJson : Attribute → Json
  | .bool value => .bool value
  | .integer value => .integer value
  | .double value => .float value
  | .text value => .text value

/-- Reads a value. An integer that needs more than 64 bits with its sign becomes a double. -/
def ofJson? : Json → Option Attribute
  | .bool value => some (.bool value)
  | .integer value =>
    some (if (Text.Integer.Range.signed 64).holds value then .integer value
      else .double (Json.floatOfInt value))
  | .float value => some (.double value)
  | .text value => some (.text value)
  | _ => none

end Attribute

namespace Attributes

/-- Values by name in JSON. -/
def toJson (attributes : Attributes) : Json :=
  .object (attributes.map fun entry => (entry.1, entry.2.toJson))

/-- Reads values by name; of two values with one name the later stands. -/
def ofJson? : Json → Option Attributes
  | .object members =>
    members.foldlM (fun found m => (Attribute.ofJson? m.2).map (Table.put found m.1)) []
  | _ => none

end Attributes
end TrackerGateway
