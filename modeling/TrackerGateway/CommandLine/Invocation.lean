import TrackerGateway.CommandLine.Arguments
import TrackerGateway.CommandLine.Parameter
import TrackerGateway.Protocol

/-!
# What the program can be asked for on its command line
-/

namespace TrackerGateway.CommandLine

/-- How results are written. -/
inductive OutputFormat where
  | text
  | json
  deriving DecidableEq, Repr

/-- What is to be decoded. -/
inductive Capture where
  | hex (digits : String)
  | text (text : String)
  deriving DecidableEq, Repr

/-- What the program shall do. -/
inductive Request where
  /-- Run the gateway. -/
  | serve (ignoreSessionCache : Bool)
  /-- Tell what units say. -/
  | decode (protocol : Protocol) (capture : Capture) (byIdentifier : Bool)
  /-- Write a command. -/
  | encode (protocol : Protocol) (kind : String) (parameters : List (String × Attribute))
  /-- Show settings to start from, or write them to a file. -/
  | config (output : Option String)

/-- A call of the program. -/
structure Invocation where
  /-- The file with the settings. -/
  configPath : Option String
  format : OutputFormat
  request : Request

namespace Invocation

/-- A switch without a value. -/
def flag (rank : Nat) (long about : String) : Switch :=
  ⟨long, none, none, false, false, about, rank⟩

/-- A switch with a value. -/
def option (rank : Nat) (long name about : String) (accepts : String → Bool) : Switch :=
  ⟨long, none, some ⟨name, accepts, []⟩, false, false, about, rank⟩

/-- Accepts a path. -/
def isPath (text : String) : Bool := text != ""

/-- Accepts the name of a protocol. -/
def isProtocol (text : String) : Bool := (Protocol.ofName text).isOk

/-- Accepts a parameter of a command. -/
def isParameter (text : String) : Bool := (Parameter.ofText text).isOk

/-- The format of a name. -/
def format? : String → Option OutputFormat
  | "text" => some .text
  | "json" => some .json
  | _ => none

/-- The rank of the switches that ask the program about itself. -/
def lastRank : Nat := 999

/-- The switches of all commands. -/
def globals : List Switch :=
  [{ option 0 "config" "CONFIG" "Configuration file path" isPath with short := some 'c' },
    { flag 1 "log-level" "Log level (trace, debug, info, warn, error)" with
      short := some 'l'
      value := some ⟨"LOG_LEVEL", fun _ => true, ["[default: info]"]⟩ },
    { flag 2 "format" "Output format" with
      value := some ⟨"FORMAT", fun name => (format? name).isSome,
        ["[default: text]", "[possible values: text, json]"]⟩ },
    flag 3 "no-color" "Disable colored output",
    { flag lastRank "help" "Print help" with short := some 'h' },
    { flag lastRank "version" "Print version" with short := some 'V' }]

/-- The commands of the program, with what they are about. -/
def commands : List (String × String) :=
  [("serve", "Run the gateway with the configured listeners"),
    ("decode", "Decode a captured unit and print positions and replies"),
    ("encode", "Render a device command"),
    ("config", "Show example configuration"),
    ("help", "Print this message or the help of the given subcommand(s)")]

/-- What the program tells about itself at length. -/
def description : String :=
  "tracklink accepts connections from GPS trackers, decodes their proprietary
protocols into canonical position records and answers them in kind.

Supported protocols: egts (binary), watch (bracketed text).

QUICK START:
  Example config:  tracklink config -o tracklink.toml
  Run gateway:     tracklink -c tracklink.toml serve
  Decode capture:  tracklink decode --protocol watch --text '[3G*8800000015*0002*LK]'
"

/-- The program itself. -/
def program : Grammar :=
  { words := [programName]
    about := "Telematics gateway decoding tracker protocols into canonical positions"
    description := some description
    switches := globals
    operand := none
    subcommands := commands }

/-- The switches of a command of its own. -/
def ownSwitches : String → List Switch
  | "serve" =>
    [flag 0 "ignore-session-cache" "Override the server-wide \"ignore session cache\" flag"]
  | "decode" =>
    [{ option 0 "protocol" "PROTOCOL" "Protocol of the captured bytes" isProtocol with
        short := some 'p', required := true },
      option 1 "text" "TEXT" "Captured bytes as literal text" fun _ => true,
      flag 2 "identifier-keyed" "Resolve devices by in-band identifier"]
  | "encode" =>
    [{ option 0 "protocol" "PROTOCOL" "Target protocol" isProtocol with
        short := some 'p', required := true },
      { option 1 "type" "COMMAND_TYPE" "Command type (e.g. setConnection, positionSingle)"
          fun _ => true with short := some 't', required := true },
      { option 2 "param" "PARAMS" "Command parameter as key=value (repeatable)" isParameter with
        repeatable := true }]
  | "config" =>
    [{ option 0 "output" "OUTPUT" "Output file (prints to stdout if not specified)" isPath with
        short := some 'o' }]
  | _ => []

/-- The operand of a command. -/
def operandOf : String → Option (String × String)
  | "decode" => some ("[HEX]", "Captured bytes, hex encoded")
  | "help" => some ("[COMMAND]...", "Print help for the subcommand(s)")
  | _ => none

/-- The switches of a command. The one that prints help has none. -/
def switchesOf (name : String) : List Switch :=
  if name = "help" then [] else ownSwitches name ++ globals

/-- A command of the program. -/
def command (name : String) : Grammar :=
  { words := [programName, name]
    about := ((commands.find? fun c => c.1 == name).map (·.2)).getD ""
    description := none
    switches := switchesOf name
    operand := operandOf name
    subcommands := [] }

/-- The help on what is named: the program or one of its commands. -/
def helpOn : List String → Stop
  | [] => .answered (program.help true)
  | [name] => if program.hasSubcommand name then .answered ((command name).help true) else .misused
  | _ => .misused

/-- The protocol that was asked for. -/
def protocol (a : Arguments) : Except Stop Protocol :=
  match a.value? "protocol" with
  | some name => (Protocol.ofName name).mapError fun _ => .misused
  | none => .error .misused

/-- What was given to be decoded: the operand, or else a text. -/
def capture (a : Arguments) : Except Stop Capture :=
  match a.operand?, a.value? "text" with
  | some digits, none => .ok (.hex digits)
  | none, some text => .ok (.text text)
  | _, _ => .error .misused

/-- The request of a command with its arguments. -/
def requestOf (name : String) (a : Arguments) : Except Stop Request :=
  match name with
  | "serve" => .ok (.serve (a.has "ignore-session-cache"))
  | "decode" => do
    pure (.decode (← protocol a) (← capture a) (a.has "identifier-keyed"))
  | "encode" =>
    match a.value? "type" with
    | some kind => do
      let parameters := (a.values "param").filterMap fun text => (Parameter.ofText text).toOption
      pure (.encode (← protocol a) kind parameters)
    | none => .error .misused
  | "config" => .ok (.config (a.value? "output"))
  | _ => .error .misused

/-- Reads the arguments of the program. What a command is given goes before what the program is. -/
def read (arguments : List String) : Except Stop Invocation := do
  let (outer, rest) ← program.read .none arguments
  match rest with
  | none => .error .misused
  | some ("help", names) => .error (helpOn names)
  | some (name, rest) =>
    let (inner, _) ← (command name).read .none rest
    let request ← requestOf name inner
    let both : Arguments := ⟨inner.given ++ outer.given, none⟩
    pure
      { configPath := both.value? "config"
        format := ((both.value? "format").bind format?).getD .text
        request }

end Invocation
end TrackerGateway.CommandLine
