import ServoLink.CommandLine.Command
import ServoLink.Display
import ServoLink.Text.Table
import ServoLink.Text.Utf8

/-!
# Reports

Frames and counters are written in four formats: as JSON, as tables, as plain
lines, and raw, which is the payloads alone.
-/

namespace ServoLink.Report

/-- A line of text. -/
def line (text : String) : Bytes :=
  Utf8.encode (text ++ "\n")

/-- A JSON value on a line of its own. -/
def json (value : Json) : Bytes :=
  line value.render

/-- A table, on lines of its own. -/
def table (t : Table) : Bytes :=
  line t.render

/-- A frame as JSON. -/
def frameJson (f : Frame) : Json :=
  .object
    ([("seq", .nat f.seq.toNat), ("component_id", .nat f.component.toNat),
        ("component", .string (Component.name f.component)), ("data_id", .nat f.data.toNat),
        ("flags", .nat f.flags.toNat), ("payload_size", .nat f.payload.length),
        ("payload", .string (Hex.ofBytes f.payload))]
      ++ ((Display.frame? f).map fun fields => ("decoded", fields)).toList)

/-- The digits of a payload, or of its first sixteen bytes and its length. -/
def preview (payload : Bytes) : String :=
  if payload.length ≤ 16 then Hex.ofBytes payload
  else
    let start := Hex.ofBytes (payload.take 16)
    s!"{start}.. ({payload.length} bytes)"

/-- A frame as a row of a table. -/
def frameRow (f : Frame) : List String :=
  [toString f.seq.toNat, Component.name f.component, toString f.data.toNat,
    "0x" ++ Hex.lower2 f.flags, toString f.payload.length, preview f.payload]

/-- A frame on a line. -/
def frameLine (f : Frame) : String :=
  let component := Component.name f.component
  let fields :=
    ["seq=" ++ toString f.seq.toNat, s!"component={f.component.toNat} ({component})",
      "data=" ++ toString f.data.toNat, "flags=0x" ++ Hex.lower2 f.flags,
      "size=" ++ toString f.payload.length, "payload=" ++ preview f.payload]
  " ".intercalate fields
    ++ match Display.frame? f with
      | some fields => " decoded=" ++ fields.render
      | none => ""

/-- Frames, in a format. -/
def frames (fs : List Frame) : OutputFormat → Bytes
  | .json => fs.flatMap fun f => json (frameJson f)
  | .table =>
    table
      { header := ["SEQ", "COMPONENT", "DATA", "FLAGS", "SIZE", "PAYLOAD"]
        rows := fs.map frameRow }
  | .pretty => fs.flatMap fun f => line (frameLine f)
  | .raw => fs.flatMap (·.payload)

/-- The counters, by the names they have in tables and lines. -/
def counterRows (s : Counters) : List (String × Nat) :=
  [("success", s.success.val), ("transport_errors", s.transportErrors.val),
    ("decode_errors", s.decodeErrors.val), ("sequence_gaps", s.sequenceGaps.val),
    ("bytes_received", s.bytesReceived.val), ("bytes_drained", s.bytesDrained.val),
    ("frames_enqueued", s.framesEnqueued.val), ("enqueue_rejected", s.enqueueRejected.val),
    ("receive_overflow", s.receiveOverflow.val)]

/-- The counters as JSON. -/
def countersJson (s : Counters) : Json :=
  .object
    [("success_count", .nat s.success.val), ("transport_error_count", .nat s.transportErrors.val),
      ("decode_error_count", .nat s.decodeErrors.val),
      ("sequence_gap_count", .nat s.sequenceGaps.val),
      ("bytes_received", .nat s.bytesReceived.val), ("bytes_drained", .nat s.bytesDrained.val),
      ("frames_enqueued", .nat s.framesEnqueued.val),
      ("enqueue_rejected", .nat s.enqueueRejected.val),
      ("receive_overflow", .nat s.receiveOverflow.val)]

/-- The counters, in a format. -/
def counters (s : Counters) : OutputFormat → Bytes
  | .json | .raw => json (countersJson s)
  | .table =>
    table
      { header := ["COUNTER", "VALUE"]
        rows := (counterRows s).map fun (name, n) => [name, toString n] }
  | .pretty => line (" ".intercalate ((counterRows s).map fun (name, n) => s!"{name}={n}"))

end ServoLink.Report
