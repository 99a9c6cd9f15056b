import ServoLink.CommandLine.Decode
import ServoLink.CommandLine.Encode
import ServoLink.CommandLine.Monitor

/-!
# The program

The command line is read, and the command it names is run on the files and
devices around it.
-/

namespace ServoLink

/-- What the program finds around it. -/
structure Surroundings where
  /-- Standard output is a terminal. -/
  terminal : Bool := false
  /-- Standard input. -/
  input : Bytes := []
  /-- The contents of a file. -/
  contents : String → Except IoFailure Bytes
  /-- A device, by what it has in store for the program. A device that is only
  listened to takes every byte and passes none on. -/
  openDevice : String → (listenOnly : Bool) → Except IoFailure Stream

/-- How the program ends. -/
inductive ProgramEnd where
  /-- The command was run. -/
  | ran (outcome : Outcome)
  /-- A text about the program was asked for. -/
  | asked
  /-- The arguments are not understood. -/
  | refused

namespace Program

/-- The version of the program. -/
def version : String := "0.1.0"

/-- What the version command writes. -/
def versionLines (extended : Bool) : List String :=
  let standard : FrameConfig := {}
  if extended then
    ["name: unify-link", "version: " ++ version, "target: unknown", "profile: unknown",
      "features: components=true, async=false, cli=true",
      s!"frame: header={headerSize} bytes, default max payload={standard.maxPayload} bytes"]
  else ["unify-link " ++ version]

/-- The input of the decode command: a file, or standard input when none is
named or the name is a dash. -/
def decodeInput (around : Surroundings) (input : Option String) : Except CommandError Bytes :=
  match input with
  | none | some "-" => .ok around.input
  | some path =>
    match around.contents path with
    | .ok bytes => .ok bytes
    | .error f => .error (.ofFailure ("failed to read " ++ path) f)

/-- The format of a command's output. -/
def format (around : Surroundings) (i : Invocation) : OutputFormat :=
  i.format.getD (.standard around.terminal)

/-- Run a command. -/
def perform (around : Surroundings) (i : Invocation) : Outcome :=
  match i.command with
  | .encode c => c.run (format around i)
  | .decode c =>
    match decodeInput around c.input with
    | .ok raw => c.run raw (format around i)
    | .error e => .failed e
  | .monitor c => c.run (format around i) around.openDevice
  | .version extended => { output := (versionLines extended).flatMap Report.line }

/-- Run the program on its arguments. -/
def run (around : Surroundings) (arguments : List String) : ProgramEnd :=
  match Command.read arguments with
  | .ok invocation => .ran (perform around invocation)
  | .error .asked => .asked
  | .error .refused => .refused

end Program

end ServoLink
