import ServoLink.CommandLine.Duration
import ServoLink.CommandLine.Outcome
import ServoLink.CommandLine.Report
import ServoLink.Device.Station
import ServoLink.Link.Transport

/-!
# The monitor command

A device is read through a link end that has every component, and all other
keys taken as they come. In rounds, feedback is asked for when it is time,
and the transport is polled; the counters are written at the end.
-/

namespace ServoLink.MonitorCommand

/-- A watch over a device. -/
structure Watch where
  /-- The link end and its stream. -/
  transport : Transport Station
  /-- The frames seen. -/
  frames : Nat := 0

/-- A watch that has not begun. -/
def watch (c : MonitorCommand) (stream : Stream) : Watch where
  transport :=
    { endpoint := (Station.endpoint c.wire.linkConfig).registerRemaining.2
      state := {}
      stream }

/-- Ask the device for the feedback of its motors and encoders. -/
def askFeedback (w : Watch) : Except CommandError Unit × Watch :=
  match Motors.requestFeedback w.transport.endpoint with
  | (.error e, endpoint) =>
    (.error (.ofDevice "motor feedback request failed" e),
      { w with transport := { w.transport with endpoint } })
  | (.ok _, endpoint) =>
    match Encoders.requestFeedback endpoint with
    | (.error e, endpoint) =>
      (.error (.ofDevice "encoder feedback request failed" e),
        { w with transport := { w.transport with endpoint } })
    | (.ok _, endpoint) => (.ok (), { w with transport := { w.transport with endpoint } })

/-- How a round ends. -/
inductive RoundEnd where
  /-- The watch goes on. -/
  | next
  /-- The device has come to its end, or enough frames were seen. -/
  | done
  /-- The watch fails. -/
  | failed (e : CommandError)
  deriving DecidableEq

/-- Poll the transport once, and see whether to go on. -/
def pollRound (c : MonitorCommand) (w : Watch) : RoundEnd × Watch :=
  match w.transport.poll with
  | (.error (.link .closed), transport) => (.done, { w with transport })
  | (.error (.link e), transport) =>
    (.failed (.ofLink "link poll failed" e), { w with transport })
  | (.error (.fault f), transport) =>
    (.failed { code := .internal, message := f.message }, { w with transport })
  | (.ok report, transport) =>
    let frames := w.frames + report.parse.frames
    (if c.count.any (· ≤ frames) then .done else .next, { transport, frames })

/-- One round; `due` says that it is time to ask for feedback. -/
def round (c : MonitorCommand) (due : Bool) (w : Watch) : RoundEnd × Watch :=
  if c.requestFeedback && due then
    match askFeedback w with
    | (.error e, w) => (.failed e, w)
    | (.ok (), w) => c.pollRound w
  else c.pollRound w

/-- The counters, in a format. -/
def report (w : Watch) (format : OutputFormat) : Bytes :=
  Report.counters w.transport.endpoint.counters format

/-- At most `fuel` rounds, with feedback asked for in the first only. -/
def rounds (c : MonitorCommand) (format : OutputFormat) :
    (due : Bool) → (fuel : Nat) → Watch → Outcome
  | _, 0, w => { output := report w format }
  | due, fuel + 1, w =>
    match c.round due w with
    | (.next, w) => c.rounds format false fuel w
    | (.done, w) => { output := report w format }
    | (.failed e, _) => .failed e

/-- The number of rounds a stream can last: every round takes at least one
byte of it or one failure. -/
def lasting (stream : Stream) : Nat :=
  (stream.reads.map fun
    | .data bytes => bytes.length + 1
    | .failure _ => 1).foldl (· + ·) 1

/-- Run the command on a device that reaches its end before the first
report is due. -/
def run (c : MonitorCommand) (format : OutputFormat)
    (openDevice : String → (listenOnly : Bool) → Except IoFailure Stream) : Outcome :=
  match Duration.parse c.interval with
  | .error e => .failed e
  | .ok _ =>
    match openDevice c.device c.listenOnly with
    | .error f => .failed (.ofFailure ("failed to open " ++ c.device) f)
    | .ok stream => c.rounds format true (lasting stream) (c.watch stream)

end ServoLink.MonitorCommand
