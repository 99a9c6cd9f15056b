import ServoLink.CommandLine.Program

/-!
# The program on a machine

Files, devices, the clock and standard output are met here and nowhere else.
Everything that is written and every code the program ends with is decided by
the commands; what stands here only carries bytes to them and from them.
-/

namespace ServoLink.Machine

/-- A failure of the machine, by the kind it is told apart by and the text it
is shown with. -/
def failureOf (e : IO.Error) : IoFailure :=
  let shown (kind : IoKind) (code : UInt32) (text : String) : IoFailure :=
    ⟨kind, s!"{text} (os error {code})"⟩
  match e with
  | .interrupted _ code text => shown .interrupted code text
  | .noFileOrDirectory .. => shown .notFound 2 "No such file or directory"
  | .permissionDenied _ code text => shown .permissionDenied code text
  | .resourceVanished code text => shown .brokenPipe code text
  | .timeExpired code text => shown .timedOut code text
  | .invalidArgument _ code text => shown .invalidInput code text
  | .inappropriateType _ code text | .resourceExhausted _ code text
  | .noSuchThing _ code text | .alreadyExists _ code text => shown .other code text
  | .illegalOperation code text | .unsupportedOperation code text
  | .resourceBusy code text | .hardwareFault code text
  | .unsatisfiedConstraints code text | .protocolError code text
  | .otherError code text => shown .other code text
  | .unexpectedEof => ⟨.unexpectedEof, "unexpected end of file"⟩
  | .userError text => ⟨.other, text⟩

/-- Run an action whose failure is an answer. -/
def attempt {α : Type} (action : IO α) : IO (Except IoFailure α) := do
  match ← action.toBaseIO with
  | .ok value => return .ok value
  | .error e => return .error (failureOf e)

/-- Write bytes to standard output. -/
def put (bytes : Bytes) : IO Unit := do
  let output ← IO.getStdout
  output.write ⟨bytes.toArray⟩
  output.flush

/-- Write an error to the error output. -/
def complain (e : CommandError) : IO Unit :=
  IO.eprintln ("error: " ++ e.message)

/-- Everything that is left on standard input. -/
partial def readInput (input : IO.FS.Stream) (before : ByteArray) : IO ByteArray := do
  let more ← input.read 65536
  if more.isEmpty then return before else readInput input (before ++ more)

/-! ## Watching a device -/

/-- A device that has been opened. One that is only listened to has no
output. -/
structure Device where
  input : IO.FS.Handle
  output : Option IO.FS.Handle

/-- Open a device. -/
def openDevice (c : MonitorCommand) : IO Device := do
  let input ← IO.FS.Handle.mk c.device .read
  if c.listenOnly then return { input, output := none }
  else return { input, output := some (← IO.FS.Handle.mk c.device .readWrite) }

/-- A read that goes on while the program does other things. -/
abbrev Reading := Task (Except IO.Error ByteArray)

/-- Begin to read from a device. -/
def Device.read (d : Device) : BaseIO Reading :=
  IO.asTask (d.input.read 512) .dedicated

/-- The longest a round waits for bytes, in milliseconds. -/
def patience : Nat := 50

/-- Wait for a read until a time; whether it has come to an end. -/
partial def waitUntil (time : Nat) (reading : Reading) : BaseIO Bool := do
  if ← IO.hasFinished reading then return true
  else if time ≤ (← IO.monoMsNow) then return false
  else
    IO.sleep 1
    waitUntil time reading

/-- What a device has in store for the next round, and the read that is then
under way. -/
def Device.offer (d : Device) (reading : Reading) : BaseIO (List ReadAnswer × Reading) := do
  if ← waitUntil ((← IO.monoMsNow) + patience) reading then
    match reading.get with
    | .ok bytes =>
      if bytes.isEmpty then return ([], reading)
      else return ([.data bytes.toList], ← d.read)
    | .error e => return ([.failure (failureOf e)], ← d.read)
  else return ([.failure ⟨.timedOut, "timed out"⟩], reading)

/-- Pass on what a round has written. -/
def Device.write (d : Device) (bytes : Bytes) : IO (Except IoFailure Unit) :=
  match d.output with
  | none => return .ok ()
  | some output =>
    if bytes.isEmpty then return .ok ()
    else attempt do
      output.write ⟨bytes.toArray⟩
      output.flush

/-- The times, in milliseconds, that a watch goes by. -/
structure Schedule where
  /-- Between two reports, and between two requests. -/
  interval : Nat
  /-- Of the last report. -/
  reported : Nat
  /-- Of the last request, if there was one. -/
  asked : Option Nat := none

/-- Watch a device until it ends, enough frames were seen, or something
fails. -/
partial def follow (c : MonitorCommand) (format : OutputFormat) (d : Device) (reading : Reading)
    (times : Schedule) (w : MonitorCommand.Watch) : IO ExitCode := do
  let now ← IO.monoMsNow
  let due := times.asked.all fun asked => times.interval ≤ now - asked
  let asked := if due then some now else times.asked
  let (reads, reading) ←
    if w.transport.stream.reads.isEmpty then d.offer reading
    else pure (w.transport.stream.reads, reading)
  let (ending, w) := c.round due { w with transport := { w.transport with stream := { reads } } }
  match ending, ← d.write w.transport.stream.written with
  | .failed e, _ =>
    complain e
    return e.code
  | _, .error f =>
    let e := CommandError.ofLink "link poll failed" (.io f)
    complain e
    return e.code
  | .done, _ =>
    put (MonitorCommand.report w format)
    return ExitCode.success
  | .next, _ =>
    let now ← IO.monoMsNow
    if times.interval ≤ now - times.reported then
      put (MonitorCommand.report w format)
      follow c format d reading { times with reported := now, asked } w
    else follow c format d reading { times with asked } w

/-- Run the monitor command. -/
def monitor (c : MonitorCommand) (format : OutputFormat) : IO ExitCode := do
  match Duration.parse c.interval with
  | .error e =>
    complain e
    return e.code
  | .ok interval =>
    match ← attempt (openDevice c) with
    | .error f =>
      let e := CommandError.ofFailure ("failed to open " ++ c.device) f
      complain e
      return e.code
    | .ok d =>
      let times : Schedule := { interval, reported := ← IO.monoMsNow }
      follow c format d (← d.read) times (c.watch {})

/-! ## The other commands -/

/-- Read what a command asks for. -/
def surroundings (command : Command) : IO Surroundings := do
  let bare : Surroundings :=
    { terminal := ← (← IO.getStdout).isTty
      contents := fun _ => .ok []
      openDevice := fun _ _ => .ok {} }
  match command with
  | .decode { input := none, .. } | .decode { input := some "-", .. } =>
    let input ← readInput (← IO.getStdin) .empty
    return { bare with input := input.toList }
  | .decode { input := some path, .. } =>
    let bytes := (← attempt (IO.FS.readBinFile path)).map (·.toList)
    return { bare with contents := fun _ => bytes }
  | _ => return bare

/-- Run a command. -/
def perform (i : Invocation) : IO ExitCode := do
  let around ← surroundings i.command
  match i.command with
  | .monitor c => monitor c (Program.format around i)
  | _ =>
    let outcome := Program.perform around i
    put outcome.output
    if let some e := outcome.error then complain e
    return outcome.code

/-- How the program is called. -/
def usage : String :=
  "Usage: unify-link [OPTIONS] <encode|decode|monitor|version> [ARGUMENTS]\n"

end ServoLink.Machine

open ServoLink in
/-- Run the program on its arguments. -/
def main (arguments : List String) : IO UInt32 := do
  match Command.read arguments with
  | .ok invocation => return (← Machine.perform invocation).toUInt32
  | .error .asked =>
    IO.print Machine.usage
    return ExitCode.success.toUInt32
  | .error .refused =>
    IO.eprint ("error: the arguments are not understood\n" ++ Machine.usage)
    return ExitCode.arguments.toUInt32
