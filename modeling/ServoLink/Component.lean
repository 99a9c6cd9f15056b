/-!
# Component numbers

The component number of a frame selects the subsystem it speaks to. The first
five are assigned; the rest are free for applications.
-/

namespace ServoLink.Component

/-- Link-level messages, passed through as they are. -/
def system : UInt8 := 0

/-- Motor telemetry, configuration and setpoints. -/
def motors : UInt8 := 1

/-- The firmware channel. -/
def update : UInt8 := 2

/-- Encoder telemetry and configuration. -/
def encoders : UInt8 := 3

/-- Payloads of demonstrations. -/
def examples : UInt8 := 4

/-- The name a component is shown with. -/
def name (id : UInt8) : String :=
  if id = system then "SYSTEM"
  else if id = motors then "MOTORS"
  else if id = update then "UPDATE"
  else if id = encoders then "ENCODERS"
  else if id = examples then "EXAMPLES"
  else "USER"

/-- Whether a component number is one of the assigned ones. -/
def isAssigned (id : UInt8) : Bool :=
  id ≤ examples

end ServoLink.Component
