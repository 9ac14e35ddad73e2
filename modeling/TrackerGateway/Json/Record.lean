import TrackerGateway.Json.Basic
import TrackerGateway.Text.Integer

/-!
# Records of named fields in JSON

A record is an object, where other members are ignored and an optional field may be missing, or the
list of its fields in order, where only fields with a default may be missing at the end.
-/

namespace TrackerGateway.Json

/-- The fields of a record. -/
structure Record where
  field : String → Option Json
  /-- Whether the fields came as a list. -/
  isList : Bool

/-- Reads a record whose fields have these names. -/
def record? (names : List String) : Json → Option Record
  | .object members => some ⟨fun name => member? name members, false⟩
  | .list elements =>
    if elements.length ≤ names.length then
      some ⟨fun name => (names.zip elements).lookup name, true⟩
    else none
  | _ => none

namespace Record

/-- A field that has to be there. -/
def required {α : Type} (r : Record) (name : String) (read : Json → Option α) : Option α :=
  (r.field name).bind read

/-- A field that may be missing or null. -/
def optional {α : Type} (r : Record) (name : String) (read : Json → Option α) : Option (Option α) :=
  match r.field name with
  | none => if r.isList then none else some none
  | some .null => some none
  | some v => (read v).map some

/-- A field with a default. -/
def defaulted {α : Type} (r : Record) (name : String) (default : α) (read : Json → Option α) :
    Option α :=
  match r.field name with
  | none => some default
  | some v => read v

end Record

/-- A text. -/
def asText? : Json → Option String
  | .text s => some s
  | _ => none

/-- A truth value. -/
def asBool? : Json → Option Bool
  | .bool b => some b
  | _ => none

/-- A value, or null for none. -/
def asOption? {α : Type} (read : Json → Option α) : Json → Option (Option α)
  | .null => some none
  | j => (read j).map some

/-- An integer of a range. -/
def asInteger? (range : Text.Integer.Range) : Json → Option Int
  | .integer n => if range.holds n then some n else none
  | _ => none

/-- The number nearest to an integer. -/
def floatOfInt (n : Int) : Float := Float.ofBits (Binary64.nearest (n < 0) n.natAbs 1)

/-- A number with or without a fraction. -/
def asFloat? : Json → Option Float
  | .float x => some x
  | .integer n => some (floatOfInt n)
  | _ => none

/-- A list whose elements all can be read. -/
def asList? {α : Type} (read : Json → Option α) : Json → Option (List α)
  | .list elements => elements.mapM read
  | _ => none

end TrackerGateway.Json
