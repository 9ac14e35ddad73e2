import TrackerGateway.Bytes.Bits

/-!
# Alarms in the status word of a watch
-/

namespace TrackerGateway.Watch.Alarm

/-- The bits of the status word that are told, in the order in which they are told. -/
def table : List (Nat × String) :=
  [(0, "lowBatteryState"), (1, "geofenceExitState"), (2, "geofenceEnterState"),
    (3, "removingState"),
    (4, "motionState"), (16, "sosAlarm"), (17, "lowBatteryAlarm"), (18, "geofenceExitAlarm"),
    (19, "geofenceEnterAlarm"), (20, "removingAlarm"), (21, "fallDownAlarm")]

/-- The bit that tells that the watch moves. -/
def motionBit : Nat := 4

/-- The names of the bits that are set. -/
def names (status : Nat) : List String :=
  (table.filter fun entry => Bits.isSet status entry.1).map (·.2)

/-- The names of the bits that are set as one text, if any is. -/
def text? (status : Nat) : Option String :=
  if (names status).isEmpty then none else some (",".intercalate (names status))

end TrackerGateway.Watch.Alarm
