import ServoLink.Proofs.CommandLine.Piping
import ServoLink.Proofs.Frame.RoundTrip

/-!
# A frame and the report on it

The encode command writes a report in JSON: the digits of a frame, and what frame it is. The
digits are those of one frame, which is read back from them in the same frame format, and the
report has its number, its key and its size (`EncodeCommand.Describes`). The flags of the report
are those that were asked for. Under a checksum a frame has three flags, so the report is right
about them exactly when no others were asked for (`EncodeCommand.report_describes_frame`);
otherwise it names flags that the frame in it does not have
(`EncodeCommand.report_names_lost_flag`).
-/

namespace ServoLink

namespace EncodeCommand

variable {c : EncodeCommand} {payload : Bytes}

/-- **A report on the frame whose digits are in it.** These are the digits of some bytes, from
which the frame is read in the same frame format, and nothing else; the size is the number of
these bytes, and the number and the key are those of the frame. Its numbers are written like
numbers, so that its text tells what it reports (`Report.flatMap_json_inj`). -/
structure Describes (wire : WireOptions) (report : List (String × Json)) (f : Frame) : Prop where
  nodup : (report.map (·.1)).Nodup
  proper : (Json.object report).Proper
  frame : ∃ (digits : String) (bytes : Bytes),
    report.lookup "frame" = some (.string digits) ∧ HexInput.parse digits = .ok bytes ∧
      Frame.decode bytes wire.frameConfig = .ok (some (f, bytes.length)) ∧
      Frame.decodeAll wire.frameConfig bytes = { frames := [f], error := none, rest := [] } ∧
      report.lookup "size" = some (.nat bytes.length)
  seq : report.lookup "seq" = some (.nat f.seq.toNat)
  component : report.lookup "component_id" = some (.nat f.component.toNat)
  data : report.lookup "data_id" = some (.nat f.data.toNat)

/-- The payload can be read from the arguments, and is within the limit. -/
def Encodable (c : EncodeCommand) : Prop :=
  ∃ payload, c.payload = .ok payload ∧ payload.length ≤ min c.wire.maxPayload 8191

/-- The words ask for a frame to be encoded, with a report in JSON. -/
def Asks (c : EncodeCommand) (around : Surroundings) (words : List String) : Prop :=
  ∃ format : Option OutputFormat, Command.read words = .ok { format, command := .encode c } ∧
    format.getD (.standard around.terminal) = .json

/-- The lowest three flags are all of them if there are no others. -/
theorem toNat_eq_and_seven_iff (flags : UInt8) :
    flags.toNat = (flags &&& 7).toNat ↔ flags.toNat < 8 := by
  have hlow : (flags &&& 7).toNat = flags.toNat % 8 := by
    rw [UInt8.toNat_and]
    exact Nat.and_two_pow_sub_one_eq_mod flags.toNat 3
  rw [hlow]
  omega

/-- **The report is on the frame in it**, which is the one that arrives. -/
theorem describes_received (h : payload.length ≤ c.wire.frameConfig.payloadLimit) :
    ∃ report, c.reportJson ((c.frame payload).wire c.wire.frameConfig) = .object report ∧
      Describes c.wire report ((c.frame payload).received c.wire.frameConfig) ∧
      report.lookup "flags" = some (.nat c.flags.toNat) := by
  let bytes := (c.frame payload).wire c.wire.frameConfig
  -- a checksum takes the place of the flags that are not among the lowest three
  let arrived : Frame :=
    { c.frame payload with flags := if c.wire.noCrc then c.flags else c.flags &&& 7 }
  have harrived : (c.frame payload).received c.wire.frameConfig = arrived :=
    Piping.received_frameConfig _ _
  have hlength : bytes.length = headerSize + payload.length :=
    (c.frame payload).length_wire c.wire.frameConfig
  have hone : Frame.decode bytes c.wire.frameConfig = .ok (some (arrived, bytes.length)) := by
    have hdecode := (c.frame payload).decode_wire_append c.wire.frameConfig [] h
    rw [List.append_nil] at hdecode
    rw [hlength, ← harrived]
    exact hdecode
  have hall : Frame.decodeAll c.wire.frameConfig bytes
      = { frames := [arrived], error := none, rest := [] } := by
    have hrow : Frame.decodeAll c.wire.frameConfig
        (Frame.wires c.wire.frameConfig [c.frame payload]) = _ :=
      Frame.decodeAll_wires fun f hf => List.mem_singleton.1 hf ▸ h
    have hbytes : Frame.wires c.wire.frameConfig [c.frame payload] = bytes := List.append_nil _
    rw [hbytes] at hrow
    rw [hrow, ← harrived]
    rfl
  have hnames : ["seq", "component_id", "data_id", "flags", "crc", "size", "frame"].Nodup := by
    decide
  refine ⟨_, rfl, ?_, rfl⟩
  rw [harrived]
  exact ⟨hnames, Report.proper_reportJson c bytes,
    ⟨_, bytes, rfl, HexInput.parse_ofBytes bytes, hone, hall, rfl⟩, rfl, rfl, rfl⟩

/-- The program runs the command. -/
theorem run_of_asks {around : Surroundings} {words : List String} (h : c.Asks around words) :
    Program.run around words = .ran (c.run .json) := by
  obtain ⟨format, hread, hformat⟩ := h
  rw [Program.run_of_read hread]
  show ProgramEnd.ran (c.run (format.getD (.standard around.terminal))) = _
  rw [hformat]

/-- Digits that are none are invalid data. -/
theorem code_of_payload_error {e : CommandError} (h : c.payload = .error e) : e.code = 60 := by
  unfold payload HexInput.parse at h
  split at h
  · split at h
    · cases h
    · cases h
      rfl
  · cases h
  · cases h

/-- **A frame that cannot be encoded is refused**, and nothing is written. -/
theorem run_of_not_encodable (h : ¬ c.Encodable) (format : OutputFormat) :
    (c.run format).code = 60 ∧ (c.run format).output = [] := by
  unfold run
  cases hpayload : c.payload with
  | error e => exact ⟨code_of_payload_error hpayload, rfl⟩
  | ok payload =>
    have hlong : c.wire.frameConfig.payloadLimit < payload.length :=
      Nat.lt_of_not_le fun hfits => h ⟨payload, hpayload, hfits⟩
    have hencode : (c.frame payload).encode c.wire.frameConfig
        = .error (.payloadTooLarge payload.length c.wire.frameConfig.payloadLimit) := if_pos hlong
    dsimp only
    rw [hencode]
    exact ⟨rfl, rfl⟩

/-- **The report on a frame describes it, but for flags that it has no room for.**

The command ends well exactly if there is a payload within the limit; otherwise it ends with code
60 and writes nothing. Where it ends well, it has written one JSON object, which has in it the
digits of one frame with this payload, and the number, the key and the size of this frame. The
flags are right exactly if frames carry no checksum or no more than the three lowest flags were
asked for. -/
theorem report_describes_frame (c : EncodeCommand) (around : Surroundings) (words : List String)
    (h : c.Asks around words) :
    ∃ outcome, Program.run around words = .ran outcome ∧
      (outcome.code = 0 ↔ c.Encodable) ∧
      (¬ c.Encodable → outcome.code = 60 ∧ outcome.output = []) ∧
      (outcome.code = 0 → ∃ (report : List (String × Json)) (f : Frame),
        outcome.output = Report.json (.object report) ∧ c.payload = .ok f.payload ∧
        Describes c.wire report f ∧
        (report.lookup "flags" = some (.nat f.flags.toNat) ↔
          c.wire.noCrc = true ∨ c.flags.toNat < 8)) := by
  refine ⟨_, run_of_asks h, ?_⟩
  by_cases hencodable : c.Encodable
  · obtain ⟨payload, hpayload, hfits⟩ := hencodable
    obtain ⟨report, hreport, hdescribes, hflags⟩ := describes_received hfits
    have hrun : c.run .json = { output := Report.json (.object report) } := by
      unfold run
      rw [hpayload]
      dsimp only
      rw [Frame.encode_of_length_le hfits, ← hreport]
      rfl
    rw [hrun]
    refine ⟨iff_of_true rfl ⟨payload, hpayload, hfits⟩,
      fun hnot => (hnot ⟨payload, hpayload, hfits⟩).elim,
      fun _ => ⟨report, _, rfl, ?_, hdescribes, ?_⟩⟩
    · rw [hpayload, Piping.received_frameConfig]
      rfl
    · rw [hflags, Piping.received_frameConfig, Option.some.injEq, Json.nat_inj]
      cases c.wire.noCrc with
      | true => exact iff_of_true rfl (.inl rfl)
      | false => exact (toNat_eq_and_seven_iff c.flags).trans (by simp)
  · obtain ⟨hcode, houtput⟩ := run_of_not_encodable hencodable .json
    refine ⟨iff_of_false ?_ hencodable, fun _ => ⟨hcode, houtput⟩, fun hsuccess => ?_⟩
    · rw [hcode]
      decide
    · rw [hcode] at hsuccess
      cases hsuccess

/-- Without a checksum a frame has all the flags that were asked for, and the report on it is
right. -/
theorem report_describes_frame_unchecked :
    let nothing : IoFailure := { kind := .notFound, text := "" }
    let around : Surroundings :=
      { contents := fun _ => .error nothing, openDevice := fun _ _ => .error nothing }
    ∃ outcome, Program.run around ["encode", "-c", "200", "-d", "0", "--no-crc", "--flags", "129"]
        = .ran outcome ∧ outcome.code = 0 ∧
      ∃ (report : List (String × Json)) (f : Frame), outcome.output = Report.json (.object report) ∧
        Describes { noCrc := true } report f ∧
        report.lookup "flags" = some (.nat f.flags.toNat) := by
  intro nothing around
  let c : EncodeCommand := { component := 200, data := 0, flags := 129, wire := { noCrc := true } }
  obtain ⟨outcome, hrun, hsuccess, -, hreport⟩ :=
    report_describes_frame c around ["encode", "-c", "200", "-d", "0", "--no-crc", "--flags", "129"]
      ⟨none, rfl, rfl⟩
  have hcode : outcome.code = 0 := hsuccess.2 ⟨[], rfl, Nat.zero_le _⟩
  obtain ⟨report, f, houtput, -, hdescribes, hflags⟩ := hreport hcode
  exact ⟨outcome, hrun, hcode, report, f, houtput, hdescribes, hflags.2 (.inl rfl)⟩

/-- **A report that names a flag which is lost.** Flags 9 are asked for, with a checksum. The report
has them, but the frame in it has only flag 1. -/
theorem report_names_lost_flag :
    let nothing : IoFailure := { kind := .notFound, text := "" }
    let around : Surroundings :=
      { contents := fun _ => .error nothing, openDevice := fun _ _ => .error nothing }
    ∃ (outcome : Outcome) (report : List (String × Json)) (digits : String) (bytes : Bytes)
      (f : Frame),
      Program.run around ["encode", "-c", "1", "-d", "1", "--flags", "9"] = .ran outcome ∧
      outcome.code = 0 ∧ outcome.output = Report.json (.object report) ∧
      report.lookup "frame" = some (.string digits) ∧ HexInput.parse digits = .ok bytes ∧
      Frame.decode bytes {} = .ok (some (f, bytes.length)) ∧
      report.lookup "flags" = some (.nat 9) ∧ f.flags = 1 := by
  intro nothing around
  let c : EncodeCommand := { component := 1, data := 1, flags := 9 }
  let bytes : Bytes := (c.frame []).wire {}
  have hdecode := (c.frame []).decode_wire_append {} [] (Nat.zero_le _)
  rw [List.append_nil, ← Frame.length_wire] at hdecode
  have hflags : (9 &&& 7 : UInt8) = 1 := by decide
  exact ⟨{ output := Report.json (c.reportJson bytes) }, _, _, bytes, _, rfl, rfl, rfl, rfl,
    HexInput.parse_ofBytes bytes, hdecode, rfl, hflags⟩

end EncodeCommand

end ServoLink
