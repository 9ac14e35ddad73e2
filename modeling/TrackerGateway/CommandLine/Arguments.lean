import TrackerGateway.CommandLine.Help

/-!
# The arguments of a command, as its grammar reads them

A switch has a long name and perhaps a short one. A value follows its switch, in the same argument
or in the next; values in arguments of their own do not begin with a hyphen. Short switches
without values may share an argument. After two hyphens everything is an operand.
-/

namespace TrackerGateway.CommandLine

/-- Why reading stopped before the end. -/
inductive Stop where
  /-- The arguments are wrong. -/
  | misused
  /-- The program is asked about itself, and this is the answer. -/
  | answered (text : String)
  deriving DecidableEq, Repr

/-- What was read: the switches with their values, and the operand. -/
structure Arguments where
  given : List (String × String)
  operand? : Option String
  deriving DecidableEq, Repr

namespace Arguments

/-- No arguments. -/
def none : Arguments := ⟨[], .none⟩

/-- The value of a switch. -/
def value? (a : Arguments) (long : String) : Option String :=
  (a.given.find? fun entry => entry.1 == long).map (·.2)

/-- All values of a switch. -/
def values (a : Arguments) (long : String) : List String :=
  (a.given.filter fun entry => entry.1 == long).map (·.2)

/-- Whether a switch was given. -/
def has (a : Arguments) (long : String) : Bool := (a.value? long).isSome

/-- Adds an operand, in so far as the command has one and was not given it before. -/
def addOperand (a : Arguments) (g : Grammar) (operand : String) : Except Stop Arguments :=
  if g.operand.isSome && a.operand?.isNone then .ok { a with operand? := some operand }
  else .error .misused

/-- Adds a switch with a value, in so far as it may be given. -/
def add (a : Arguments) (s : Switch) (value : String) : Except Stop Arguments :=
  if !((s.value.map fun v => v.accepts value).getD true) then .error .misused
  else if a.has s.long && !s.repeatable then .error .misused
  else .ok { a with given := a.given ++ [(s.long, value)] }

/-- Adds a switch without a value; `long` says that it was called by its long name. -/
def addFlag (a : Arguments) (g : Grammar) (s : Switch) (long : Bool) : Except Stop Arguments :=
  if s.long = "help" then .error (.answered (g.help long))
  else if s.long = "version" then .error (.answered g.versionLine)
  else a.add s ""

end Arguments

namespace Grammar

/-- What an argument with short switches comes to: the arguments so far, and the switch whose value
is to follow if there is one. -/
def readShorts (g : Grammar) (a : Arguments) : List Char → Except Stop (Arguments × Option Switch)
  | [] => .ok (a, none)
  | c :: rest =>
    match g.short? c with
    | none => .error .misused
    | some s =>
      match s.value, rest with
      | none, _ => do g.readShorts (← a.addFlag g s false) rest
      | some _, [] => .ok (a, some s)
      | some _, '=' :: value | some _, value => do .ok (← a.add s (String.ofList value), none)

/-- What an argument with a long switch comes to. -/
def readLong (g : Grammar) (a : Arguments) (text : List Char) :
    Except Stop (Arguments × Option Switch) :=
  let name := text.takeWhile (· != '=')
  match g.long? (String.ofList name), text.dropWhile (· != '=') with
  | none, _ => .error .misused
  | some s, attached =>
    match s.value, attached with
    | none, [] => do .ok (← a.addFlag g s true, none)
    | none, _ => .error .misused
    | some _, [] => .ok (a, some s)
    | some _, _ :: value => do .ok (← a.add s (String.ofList value), none)

/-- What an argument comes to that begins with a hyphen; none if it is an operand. -/
def readSwitch? (g : Grammar) (a : Arguments) (argument : String) :
    Option (Except Stop (Arguments × Option Switch)) :=
  match argument.toList with
  | '-' :: '-' :: text => some (g.readLong a text)
  | ['-'] => none
  | '-' :: text => some (g.readShorts a text)
  | _ => none

/-- Whether an argument can be a value. -/
def isValue (argument : String) : Bool := !argument.startsWith "-" || argument == "-"

/-- Reads arguments up to the name of a command under this one, which comes with the arguments that
are left. -/
def read (g : Grammar) (a : Arguments) :
    List String → Except Stop (Arguments × Option (String × List String))
  | [] => .ok (a, none)
  | argument :: rest =>
    if g.hasSubcommand argument then .ok (a, some (argument, rest))
    else if argument = "--" then
      (rest.foldlM (fun (a : Arguments) => a.addOperand g) a).map (·, none)
    else
      match g.readSwitch? a argument with
      | none =>
        match a.addOperand g argument with
        | .ok a => g.read a rest
        | .error stop => .error stop
      | some (.error stop) => .error stop
      | some (.ok (a, none)) => g.read a rest
      | some (.ok (a, some s)) =>
        match rest with
        | [] => .error .misused
        | value :: rest =>
          if isValue value then
            match a.add s value with
            | .ok a => g.read a rest
            | .error stop => .error stop
          else .error .misused

end Grammar
end TrackerGateway.CommandLine
