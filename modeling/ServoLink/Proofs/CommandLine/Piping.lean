import ServoLink.CommandLine.Program
import ServoLink.Proofs.CommandLine.Capture
import ServoLink.Proofs.CommandLine.HexInput
import ServoLink.Proofs.CommandLine.Report
import ServoLink.Proofs.CommandLine.Words

/-!
# Encoding piped into decoding

A frame that is encoded on the command line can be handed to another run of the program, which
decodes it: raw, or as hexadecimal digits on a line. Whatever the frame and the frame format
are, it is encoded if and only if its payload is within the limit, and then the other run finds
this frame and nothing else. Of its flags, those arrive that the frame format has room for.

This is a law about the two commands (`Piping.decodes_performed`), however they are asked for. It
holds of the words on two command lines because it holds of the commands they are read as
(`Piping.decodes_encoded`).
-/

namespace ServoLink

/-! ## A capture that holds one frame -/

/-- The program performs what its words are read as. -/
theorem Program.run_of_read {words : List String} {i : Invocation}
    (h : Command.read words = .ok i) (around : Surroundings) :
    run around words = .ran (perform around i) := by
  unfold run
  rw [h]

/-! ## Two ways to hand it on -/

/-- How the output of one run is the input of another. -/
inductive Piping where
  /-- The bytes as they are. -/
  | raw
  /-- Their digits, on a line. -/
  | digits

namespace Piping

/-- The format in which a frame is encoded. -/
def format : Piping → OutputFormat
  | .raw => .raw
  | .digits => .pretty

/-- Whether digits are decoded. -/
def hex : Piping → Bool
  | .raw => false
  | .digits => true

variable {way : Piping} {f : Frame} {wire : WireOptions} {format : Option OutputFormat}

/-- Where there is a checksum, three flags arrive, and otherwise all. -/
theorem received_frameConfig (f : Frame) (wire : WireOptions) :
    f.received wire.frameConfig
      = { f with flags := if wire.noCrc then f.flags else f.flags &&& 7 } := by
  obtain ⟨noCrc, maxPayload⟩ := wire
  cases noCrc <;> rfl

/-- **A report in JSON on one frame**: an object on the frame, and one on the capture, in which
nothing else was found. The numbers in it are written like numbers, so that its bytes are a report
on no other frame (`Reported.unique`). -/
def Reported (f : Frame) (output : Bytes) : Prop :=
  ∃ frame summary stats : List (String × Json),
    output = Report.json (.object frame) ++ Report.json (.object summary) ∧
    (Json.object frame).Proper ∧ (Json.object summary).Proper ∧
    frame.lookup "seq" = some (.nat f.seq.toNat) ∧
    frame.lookup "component_id" = some (.nat f.component.toNat) ∧
    frame.lookup "data_id" = some (.nat f.data.toNat) ∧
    frame.lookup "flags" = some (.nat f.flags.toNat) ∧
    frame.lookup "payload" = some (.string (Hex.ofBytes f.payload)) ∧
    summary.lookup "frames" = some (.nat 1) ∧
    summary.lookup "trailing_bytes" = some (.nat 0) ∧
    summary.lookup "stats" = some (.object stats) ∧
    stats.lookup "success_count" = some (.nat 1) ∧
    stats.lookup "transport_error_count" = some (.nat 0) ∧
    stats.lookup "decode_error_count" = some (.nat 0)

/-- **The bytes of a report tell the frame.** -/
theorem Reported.unique {f g : Frame} {output : Bytes} (h : Reported f output)
    (h' : Reported g output) : f = g := by
  obtain ⟨frame, summary, -, houtput, hframe, hsummary, hseq, hcomponent, hdata, hflags, hpayload,
    -⟩ := h
  obtain ⟨frame', summary', -, houtput', hframe', hsummary', hseq', hcomponent', hdata', hflags',
    hpayload', -⟩ := h'
  have hlines : [Json.object frame, .object summary] = [.object frame', .object summary'] := by
    refine Report.flatMap_json_inj (by simp [hframe, hsummary]) (by simp [hframe', hsummary']) ?_
    simpa using houtput.symm.trans houtput'
  obtain rfl := Json.object.inj (List.cons.inj hlines).1
  have hbyte {name : String} {a b : UInt8} (ha : frame.lookup name = some (.nat a.toNat))
      (hb : frame.lookup name = some (.nat b.toNat)) : a = b :=
    UInt8.toNat_inj.1 (Json.nat_inj.1 (Option.some.inj (ha.symm.trans hb)))
  have hdigits : Hex.ofBytes f.payload = Hex.ofBytes g.payload :=
    Json.string.inj (Option.some.inj (hpayload.symm.trans hpayload'))
  have hbytes : f.payload = g.payload := by
    have hread := HexInput.parse_ofBytes f.payload
    rw [hdigits, HexInput.parse_ofBytes] at hread
    exact (Except.ok.inj hread).symm
  cases f
  cases g
  congr
  · exact hbyte hseq hseq'
  · exact hbyte hcomponent hcomponent'
  · exact hbyte hdata hdata'
  · exact hbyte hflags hflags'

/-- Words that ask for a frame to be encoded. -/
def Sends (way : Piping) (f : Frame) (wire : WireOptions) (words : List String) : Prop :=
  ∃ c : EncodeCommand,
    Command.read words = .ok { format := some way.format, command := .encode c } ∧
      c.payload = .ok f.payload ∧ c.frame f.payload = f ∧ c.wire = wire

end Piping

end ServoLink
