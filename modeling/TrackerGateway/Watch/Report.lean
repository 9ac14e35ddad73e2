import TrackerGateway.Position
import TrackerGateway.Sentence.Fields
import TrackerGateway.Watch.Alarm
import TrackerGateway.Watch.Surroundings

/-!
# Location reports of watches

A report is one sentence: date, time, validity, latitude, longitude, speed, course, altitude, the
number of satellites, signal, battery, steps, a count that is passed over, the status word, and the
networks around.
-/

namespace TrackerGateway.Watch

/-- The name of the protocol. -/
def protocolName : String := "watch"

namespace Report

/-- The form of a report. -/
def template : Sentence.Template :=
  Sentence.Template.empty
    |>.number "(dd)(dd)(dd),"
    |>.number "(dd)(dd)(dd),"
    |>.expression "([AV]),"
    |>.number " *(-?d+.d+),"
    |>.expression "([NS]),"
    |>.number " *(-?d+.d+),"
    |>.expression "([EW])?,"
    |>.number "(d+.?d*),"
    |>.number "(d+.?d*),"
    |>.number "(-?d+.?d*),"
    |>.number "(d+),"
    |>.number "(d+),"
    |>.number "(d+),"
    |>.number "(d+),"
    |>.number "d+,"
    |>.number "(x+),"
    |>.expression "(.*)"

/-- The pattern of a report. -/
def pattern? : Option Pattern.Compiled := template.compile?

open Sentence

/-- Takes time and place. -/
def readFix (position : Position) : Read Position := do
  let fixTime ← Fields.dateTime? .dmyHms
  let validity ← Fields.next
  let latitude ← Fields.coordinate? .degHem
  let longitude ← Fields.coordinate? .degHem
  let speed ← Fields.double 0
  let course ← Fields.double 0
  let altitude ← Fields.double 0
  let position := { position with
    fixTime
    valid := validity == some "A"
    latitude := latitude.getD 0
    longitude := longitude.getD 0
    speed := Units.knotsOfKph speed
    altitude }
  pure (position.setCourse course)

/-- Takes the readings that are numbers. -/
def readNumbers (position : Position) : Read Position := do
  let satellites ← Fields.int 0
  let signal ← Fields.int 0
  let battery ← Fields.int 0
  let steps ← Fields.int 0
  pure <| (((position.set "sat" (.integer satellites)).set "rssi" (.integer signal)).set
    "batteryLevel" (.integer battery)).set "steps" (.integer steps)

/-- The report with what its status word tells. -/
def withStatus (position : Position) (status : Nat) : Position :=
  let position := position.set? "alarm" ((Alarm.text? status).map .text)
  if Bits.isSet status Alarm.motionBit then position.set "motion" (.bool true) else position

/-- The report with the networks of a block. -/
def withBlock (position : Position) : Option String → Position
  | some block => position.setNetwork (Surroundings.ofText block).network
  | none => position

/-- Takes all fields of a report. -/
def read : Read Position := do
  let position ← readFix (.blank protocolName)
  let position ← readNumbers position
  let status ← Fields.hex 0
  let block ← Fields.next
  pure (withBlock (withStatus position status) block)

/-- The position that a report tells. -/
def position? (report : String) : Option Position := do
  let pattern ← pattern?
  let fields ← Fields.ofMatch? pattern report
  match read fields with
  | .ok (position, _) => some position
  | .error _ => none

end Report
end TrackerGateway.Watch
