import ServoLink.CommandLine.ExitCode
import ServoLink.Bytes

/-!
# What a command leaves behind

A command writes to standard output and ends, well or with an error. What it
has written before an error stays written.
-/

namespace ServoLink

/-- What a command wrote and how it ended. -/
structure Outcome where
  /-- The bytes written to standard output. -/
  output : Bytes := []
  /-- The error it ended with, if it did. -/
  error : Option CommandError := none
  deriving DecidableEq

namespace Outcome

/-- The code the program ends with. -/
def code (o : Outcome) : ExitCode :=
  match o.error with
  | some e => e.code
  | none => .success

/-- A command that failed before it wrote anything. -/
def failed (e : CommandError) : Outcome :=
  { error := some e }

end Outcome

end ServoLink
