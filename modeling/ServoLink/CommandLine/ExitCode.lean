import ServoLink.Device.Mount

/-!
# Exit codes

A command that fails ends with a code that says what kind of thing went
wrong, and with a message that names the attempt and the cause.
-/

namespace ServoLink

/-- The code a command ends with. -/
abbrev ExitCode := Nat

namespace ExitCode

/-- All went well. -/
def success : ExitCode := 0
/-- A link refused for lack of room. -/
def failure : ExitCode := 1
/-- The arguments are not understood. -/
def arguments : ExitCode := 2
/-- The device or file cannot be reached. -/
def transport : ExitCode := 3
/-- The data are not what they should be. -/
def dataInvalid : ExitCode := 60
/-- The command was asked for something it does not do. -/
def usage : ExitCode := 64
/-- Nothing came in time. -/
def timeout : ExitCode := 124
/-- Anything else. -/
def internal : ExitCode := 125

/-- The code for a failure from outside. -/
def ofKind : IoKind → ExitCode
  | .timedOut | .wouldBlock => timeout
  | .notFound | .permissionDenied | .brokenPipe | .unexpectedEof => transport
  | .invalidData | .invalidInput => dataInvalid
  | .interrupted | .other => internal

end ExitCode

/-- Why a command failed. -/
structure CommandError where
  /-- The code it ends with. -/
  code : ExitCode
  /-- What is said about it. -/
  message : String
  deriving DecidableEq

namespace CommandError

/-- An attempt, and what came of it. -/
def during (code : ExitCode) (attempt text : String) : CommandError :=
  { code, message := s!"{attempt}: {text}" }

/-- A failure from outside. -/
def ofFailure (attempt : String) (f : IoFailure) : CommandError :=
  during (.ofKind f.kind) attempt f.text

/-- A frame that was not read or written. -/
def ofFrame (attempt : String) : FrameError → CommandError
  | .io f => ofFailure attempt f
  | e => during .dataInvalid attempt e.message

/-- A link operation that failed. -/
def ofLink (attempt : String) : LinkError → CommandError
  | .frame e => ofFrame attempt e
  | .io f => ofFailure attempt f
  | .closed => during .transport attempt LinkError.closed.message
  | e => during .failure attempt e.message

/-- A component operation that failed. -/
def ofDevice (attempt : String) : DeviceError → CommandError
  | .link e => ofLink attempt e
  | e => during .usage attempt e.message

end CommandError

end ServoLink
