import ServoLink.CommandLine.HexInput
import ServoLink.CommandLine.Outcome
import ServoLink.CommandLine.Report
import ServoLink.Link.Endpoint

/-!
# The decode command

A capture is fed through a whole link end, so that the counters are those a
live link would show, and the frames found are written.
-/

namespace ServoLink

/-- A link end that takes every frame and keeps it, newest first. -/
def Endpoint.collecting (config : LinkConfig) : Endpoint (List Frame) :=
  let e : Endpoint (List Frame) := .new config
  { e with registry := e.registry.registerAll (.raw fun f fs => (none, f :: fs)) }

/-- Feed a capture to a link end in pieces as large as its receive buffer has
room for, parsing after each. The scan would end early with the buffer full,
which it never is after a parse pass. -/
def Endpoint.scan (e : Endpoint (List Frame)) (found : List Frame) (capture : Bytes) :
    Except LinkError (Endpoint (List Frame) × List Frame) :=
  if _h : capture.isEmpty || e.sync.room == 0 then .ok (e, found)
  else match e.push (capture.take e.sync.room) with
    | (.error err, _) => .error err
    | (.ok (), pushed) =>
      let (_, parsed, found) := pushed.parse found
      parsed.scan found (capture.drop e.sync.room)
termination_by capture.length
decreasing_by
  simp only [Bool.or_eq_true, List.isEmpty_iff, beq_iff_eq, not_or] at _h
  have := List.length_pos_iff.2 _h.1
  simp only [List.length_drop]
  omega

namespace DecodeCommand

/-- What the raw input holds: the capture itself, or its digits. -/
def capture (c : DecodeCommand) (raw : Bytes) : Except CommandError Bytes :=
  if c.hex then
    match Utf8.decode? raw with
    | some text => HexInput.parse text
    | none => .error { code := .dataInvalid, message := "hex input is not valid UTF-8" }
  else .ok raw

/-- The closing report, as JSON. -/
def summaryJson (frames trailing : Nat) (counters : Counters) : Json :=
  .object
    [("frames", .nat frames), ("trailing_bytes", .nat trailing),
      ("stats", Report.countersJson counters)]

/-- The closing report, in a format. -/
def summary (frames trailing : Nat) (counters : Counters) : OutputFormat → Bytes
  | .json => Report.json (summaryJson frames trailing counters)
  | .table => Report.counters counters .table
  | .pretty => Report.counters counters .pretty
  | .raw => []

/-- Run the command on its input. A capture without any frame is an error. -/
def run (c : DecodeCommand) (raw : Bytes) (format : OutputFormat) : Outcome :=
  match c.capture raw with
  | .error e => .failed e
  | .ok capture =>
    match (Endpoint.collecting c.wire.linkConfig).scan [] capture with
    | .error e => .failed (.ofLink "scan failed" e)
    | .ok (endpoint, found) =>
      let frames := found.reverse
      { output :=
          Report.frames frames format
            ++ summary frames.length endpoint.sync.buffered endpoint.counters format
        error :=
          if frames.isEmpty && !capture.isEmpty then
            some { code := .dataInvalid, message := "no frames found in input" }
          else none }

end DecodeCommand

end ServoLink
