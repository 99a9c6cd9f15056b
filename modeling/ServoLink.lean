import ServoLink.Firmware.Upload
import ServoLink.Main
import ServoLink.Message.Fields
import ServoLink.Receive.Scan
import ServoLink.StreamCodec
import ServoLink.Proofs.Frame.Decode
import ServoLink.Proofs.Frame.ReadBack
import ServoLink.Proofs.Receive.Reading
import ServoLink.Proofs.Receive.Chunking
import ServoLink.Proofs.Link.Pass
import ServoLink.Proofs.Link.Reception
import ServoLink.Proofs.Link.Outbox
import ServoLink.Proofs.Receive.Noise
import ServoLink.Proofs.Link.Delivery
import ServoLink.Proofs.Device.Unsent
import ServoLink.Proofs.Frame.RoundTrip
import ServoLink.Proofs.Frame.Canonical
import ServoLink.Proofs.Frame.Verdict
import ServoLink.Proofs.Receive.Rescan
import ServoLink.Proofs.Link.Conservation
import ServoLink.Proofs.Checksum.Detection
import ServoLink.Proofs.Frame.Corruption
import ServoLink.Proofs.Receive.Waiting
import ServoLink.Proofs.Link.Counting
import ServoLink.Proofs.Link.Ledger
import ServoLink.Proofs.Link.Observer
import ServoLink.Proofs.Link.Inbound
import ServoLink.Proofs.Link.Outbound
import ServoLink.Proofs.Link.Backpressure
import ServoLink.Proofs.Message.Layout
import ServoLink.Proofs.Device.Arrival
import ServoLink.Proofs.Link.Routing
import ServoLink.Proofs.Device.Replica
import ServoLink.Proofs.Link.Hearing
import ServoLink.Proofs.Device.Request
import ServoLink.Proofs.Firmware.Delivery
import ServoLink.Proofs.Link.Answers
import ServoLink.Proofs.Link.Cuts
import ServoLink.Proofs.Device.Channel
import ServoLink.Proofs.Device.Display
import ServoLink.Proofs.Device.Effect
import ServoLink.Proofs.Link.Recovery
import ServoLink.Proofs.Device.Faults
import ServoLink.Proofs.Link.Feeding
import ServoLink.Proofs.CommandLine.Capture
import ServoLink.Proofs.Message.Faithful
import ServoLink.Proofs.Link.Flushing
import ServoLink.Proofs.Link.Patience
import ServoLink.Proofs.Link.Keys
import ServoLink.Proofs.Link.Registration
import ServoLink.Proofs.Link.KeyTable
import ServoLink.Proofs.Link.Dealings
import ServoLink.Proofs.Link.Writing
import ServoLink.Proofs.Device.Setpoint
import ServoLink.Proofs.Link.Invariant
import ServoLink.Proofs.Device.Identity
import ServoLink.Proofs.Text.Utf8
import ServoLink.Proofs.Text.Digits
import ServoLink.Proofs.Text.Json
import ServoLink.Proofs.CommandLine.Words
import ServoLink.Proofs.CommandLine.Report
import ServoLink.Proofs.CommandLine.Piping
import ServoLink.Proofs.Checksum.Division
import ServoLink.Proofs.Text.Field
import ServoLink.Proofs.Link.Gaps
import ServoLink.Proofs.Link.Rest
import ServoLink.Proofs.CommandLine.Duration
import ServoLink.Proofs.CommandLine.Encoding
import ServoLink.Proofs.CommandLine.HexInput
