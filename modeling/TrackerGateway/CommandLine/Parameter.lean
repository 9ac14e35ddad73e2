import TrackerGateway.Attribute
import TrackerGateway.Text.Quoted

/-!
# Parameters of commands, as they are given on the command line
-/

namespace TrackerGateway.CommandLine.Parameter

/-- The value of a text: an integer, a truth value, or the text itself. -/
def value (text : String) : Attribute :=
  match Text.Integer.decimal? (.signed 64) text with
  | some n => .integer n
  | none =>
    if text = "true" then .bool true else if text = "false" then .bool false else .text text

/-- Reads a name and a value with an equals sign between them. -/
def ofText (text : String) : Except String (String × Attribute) :=
  let key := text.toList.takeWhile (· != '=')
  match text.toList.dropWhile (· != '=') with
  | [] => .error s!"expected key=value, got {Text.Quoted.encode text}"
  | _ :: rest =>
    if key.isEmpty then .error s!"empty parameter name in {Text.Quoted.encode text}"
    else .ok (String.ofList key, value (String.ofList rest))

end TrackerGateway.CommandLine.Parameter
