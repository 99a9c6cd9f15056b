import ServoLink.CommandLine.HexInput
import ServoLink.CommandLine.Outcome
import ServoLink.CommandLine.Report

/-!
# The encode command

One frame is made from the arguments and written.
-/

namespace ServoLink.EncodeCommand

/-- The payload asked for. -/
def payload (c : EncodeCommand) : Except CommandError Bytes :=
  match c.hex, c.text with
  | some digits, _ => HexInput.parse digits
  | none, some text => .ok (Utf8.encode text)
  | none, none => .ok []

/-- The frame asked for, with a given payload. -/
def frame (c : EncodeCommand) (payload : Bytes) : Frame :=
  { seq := c.seq, component := c.component, data := c.data, flags := c.flags, payload }

/-- The report on a frame, as JSON. -/
def reportJson (c : EncodeCommand) (wire : Bytes) : Json :=
  .object
    [("seq", .nat c.seq.toNat), ("component_id", .nat c.component.toNat),
      ("data_id", .nat c.data.toNat), ("flags", .nat c.flags.toNat),
      ("crc", .bool (!c.wire.noCrc)), ("size", .nat wire.length),
      ("frame", .string (Hex.ofBytes wire))]

/-- The report on a frame, in a format. -/
def report (c : EncodeCommand) (wire : Bytes) : OutputFormat → Bytes
  | .json => Report.json (c.reportJson wire)
  | .table =>
    Report.table
      { header := ["COMPONENT", "DATA", "SEQ", "SIZE", "FRAME"]
        rows :=
          [[toString c.component.toNat, toString c.data.toNat, toString c.seq.toNat,
            toString wire.length, Hex.ofBytes wire]] }
  | .pretty => Report.line (Hex.ofBytes wire)
  | .raw => wire

/-- Run the command. -/
def run (c : EncodeCommand) (format : OutputFormat) : Outcome :=
  match c.payload with
  | .error e => .failed e
  | .ok payload =>
    match (c.frame payload).encode c.wire.frameConfig with
    | .error e => .failed (.ofFrame "encode failed" e)
    | .ok wire => { output := c.report wire format }

end ServoLink.EncodeCommand
