/-!
# What a command line may hold: switches, with values or without, operands, and commands
-/

namespace TrackerGateway.CommandLine

/-- The name of the program. -/
def programName : String := "tracklink"

/-- The version of the program. -/
def programVersion : String := "0.1.0"

/-- The value of a switch. -/
structure Value where
  /-- What the help calls it. -/
  name : String
  accepts : String → Bool
  /-- What the help adds to what the switch is about. -/
  notes : List String

/-- A switch that a command knows. -/
structure Switch where
  long : String
  short : Option Char
  value : Option Value
  /-- Whether it may be given more than once. -/
  repeatable : Bool
  /-- Whether the command cannot do without it. -/
  required : Bool
  about : String
  /-- Its place in the help, after switches of lesser rank. -/
  rank : Nat

/-- A command: what its arguments may be, and what it tells about itself. -/
structure Grammar where
  /-- The words that call it. -/
  words : List String
  about : String
  /-- What it tells about itself at length. -/
  description : Option String
  switches : List Switch
  /-- How its operand is written in the help, if it has one, and what that is about. -/
  operand : Option (String × String)
  /-- The commands under it, with what they are about; a command with some has no operands. -/
  subcommands : List (String × String)

namespace Grammar

/-- The switch of a long name. -/
def long? (g : Grammar) (name : String) : Option Switch := g.switches.find? fun s => s.long == name

/-- The switch of a short name. -/
def short? (g : Grammar) (name : Char) : Option Switch :=
  g.switches.find? fun s => s.short == some name

/-- Whether a command of that name is under this one. -/
def hasSubcommand (g : Grammar) (name : String) : Bool := g.subcommands.any fun c => c.1 == name

end Grammar
end TrackerGateway.CommandLine
