import TrackerGateway.CommandLine.Grammar

/-!
# What a command tells about itself

The help names the words that call a command, the commands under it, its operand and its switches. A
command with a description has a long help too, where each switch stands in a paragraph of its own.
-/

namespace TrackerGateway.CommandLine

/-- Two columns of a table, the first `width` wide. -/
def row (width : Nat) (first second : String) : String :=
  let gap := String.ofList (List.replicate (width - first.length) ' ')
  s!"  {first}{gap}  {second}"

/-- A table of two columns under a heading. -/
def table (heading : String) (entries : List (String × String)) : String :=
  let width := (entries.map fun e => e.1.length).foldl max 0
  "\n".intercalate (s!"{heading}:" :: entries.map fun e => row width e.1 e.2)

namespace Switch

/-- The switch as it is called with its long name. -/
def usage (s : Switch) : String :=
  match s.value with
  | some value => s!"--{s.long} <{value.name}>"
  | none => s!"--{s.long}"

/-- The switch with both its names. -/
def label (s : Switch) : String :=
  match s.short with
  | some name => s!"-{name}, {s.usage}"
  | none => s!"    {s.usage}"

/-- What the help adds to what the switch is about. -/
def notes (s : Switch) : List String := (s.value.map (·.notes)).getD []

/-- What orders switches of one rank: the short name, small letters first, or else the long one. -/
def sortKey (s : Switch) : List Char :=
  match s.short with
  | some name => [name.toLower, if name.isLower then '0' else '1']
  | none => s.long.toList

/-- Whether a switch stands before another in the help. -/
def before (s t : Switch) : Bool :=
  s.rank < t.rank ||
    (s.rank == t.rank && !t.sortKey.lex s.sortKey fun c d => c.toNat < d.toNat)

/-- A switch in the table of switches. -/
def entry (s : Switch) : String × String := (s.label, " ".intercalate (s.about :: s.notes))

/-- A switch in a paragraph of its own. -/
def paragraph (s : Switch) : String :=
  let line (text : String) : String := s!"          {text}"
  let lines := s.about :: if s.notes.isEmpty then [] else "" :: s.notes
  "\n".intercalate (s!"  {s.label}" :: lines.map line)

end Switch

namespace Grammar

/-- How a command is called. -/
def usage (g : Grammar) : String :=
  let required := (g.switches.filter (·.required)).map Switch.usage
  let options := if g.switches.isEmpty then [] else ["[OPTIONS]"]
  let operand := g.operand.toList.map (·.1)
  let subcommand := if g.subcommands.isEmpty then [] else ["<COMMAND>"]
  "Usage: " ++ " ".intercalate (g.words ++ options ++ required ++ operand ++ subcommand)

/-- The switches in the order of the help. -/
def ordered (g : Grammar) : List Switch := g.switches.mergeSort Switch.before

/-- The switch that asks for the help, where it is told that there is another help. -/
def helpNote (g : Grammar) (long : Bool) : String :=
  match g.description, long with
  | none, _ => ""
  | some _, false => " (see more with '--help')"
  | some _, true => " (see a summary with '-h')"

/-- Adds the note to the switch that asks for the help. -/
def annotate (g : Grammar) (long : Bool) (s : Switch) : Switch :=
  if s.long = "help" then { s with about := s.about ++ g.helpNote long } else s

/-- The switches of a command, in a table or in paragraphs. -/
def options (g : Grammar) (long : Bool) : String :=
  let switches := g.ordered.map (g.annotate long)
  if long then "Options:\n" ++ "\n\n".intercalate (switches.map Switch.paragraph)
  else table "Options" (switches.map Switch.entry)

/-- The help of a command, the long one if there is one and it is asked for. -/
def help (g : Grammar) (long : Bool) : String :=
  let long := long && g.description.isSome
  let about := if long then g.description.getD g.about else g.about
  let subcommands := if g.subcommands.isEmpty then [] else [table "Commands" g.subcommands]
  let operand := g.operand.toList.map fun o => table "Arguments" [o]
  let options := if g.switches.isEmpty then [] else [g.options long]
  let parts := s!"{about}\n" :: g.usage :: (subcommands ++ operand ++ options).map ("\n" ++ ·)
  "\n".intercalate parts ++ "\n"

/-- The line that tells the version of a command. -/
def versionLine (g : Grammar) : String := "-".intercalate g.words ++ s!" {programVersion}\n"

end Grammar
end TrackerGateway.CommandLine
