import Std.Time.DateTime.Timestamp
import TrackerGateway.CommandLine.Run

/-!
# The program: reads its arguments and its settings, and prints what it is asked for

It ends with 0 after success, with 1 after an error, and with 2 where the arguments are wrong.
-/

open TrackerGateway

/-- The instant that the clock shows. -/
def currentInstant : IO Instant := do
  let now ← Std.Time.Timestamp.now
  let nanoseconds := now.toNanosecondsSinceUnixEpoch.toInt
  pure ⟨nanoseconds / 1000000000, (nanoseconds % 1000000000).toNat⟩

/-- The settings in a file, or those where nothing is set. -/
def readConfig : Option String → IO (Except Error Config)
  | none => pure (.ok .default)
  | some path => do
    try
      let text ← IO.FS.readFile path
      pure (Config.load text)
    catch e => pure (.error (.config s!"Failed to read config: {e}"))

/-- Does what an invocation asks for. -/
def perform (invocation : CommandLine.Invocation) : IO (Except Error String) := do
  match ← readConfig invocation.configPath with
  | .error error => pure (.error error)
  | .ok config =>
    match CommandLine.run config (← currentInstant) invocation with
    | .error error => pure (.error error)
    | .ok output =>
      match CommandLine.fileToWrite? invocation with
      | none => pure (.ok output)
      | some (path, text) =>
        try
          IO.FS.writeFile path text
          pure (.ok output)
        catch e => pure (.error (.io s!"{e}"))

/-- The program. -/
def main (arguments : List String) : IO UInt32 := do
  match CommandLine.Invocation.read arguments with
  | .error (.answered text) =>
    IO.print text
    pure 0
  | .error .misused =>
    IO.eprintln "error: wrong arguments"
    pure 2
  | .ok invocation =>
    match ← perform invocation with
    | .ok output =>
      IO.print output
      pure 0
    | .error error =>
      IO.eprintln s!"Error: {error.message}"
      pure 1
