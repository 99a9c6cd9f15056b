import ServoLink.CommandLine.Options
import ServoLink.Link.Config
import ServoLink.Text.Numeral

/-!
# Commands

The program has four commands: to write one frame, to find the frames in a
capture, to watch a device, and to say its version. Some options belong to
all of them and may stand before or after the command's name; what stands
after it wins.
-/

namespace ServoLink

/-- How results are written. -/
inductive OutputFormat where
  | json
  | table
  | pretty
  | raw
  deriving DecidableEq, Inhabited

/-- The format of a name. -/
def OutputFormat.ofName? : String → Option OutputFormat
  | "json" => some .json
  | "table" => some .table
  | "pretty" => some .pretty
  | "raw" => some .raw
  | _ => none

/-- The format when none is asked for: tables on a terminal, else JSON. -/
def OutputFormat.standard (terminal : Bool) : OutputFormat :=
  if terminal then .table else .json

/-- The frame format asked for. -/
structure WireOptions where
  /-- Frames carry no checksum. -/
  noCrc : Bool := false
  /-- The largest payload. -/
  maxPayload : Nat := 512
  deriving DecidableEq, Inhabited

namespace WireOptions

/-- The settings of the frame format. -/
def frameConfig (w : WireOptions) : FrameConfig where
  maxPayload := w.maxPayload
  integrity := if w.noCrc then .unchecked else .crc16

/-- The settings of a link, with room for four of the largest frames each
way. -/
def linkConfig (w : WireOptions) : LinkConfig where
  frame := w.frameConfig
  maxQueue := 4 * w.frameConfig.maxFrameLength
  maxReceive := 4 * w.frameConfig.maxFrameLength

end WireOptions

/-- Write one frame. -/
structure EncodeCommand where
  component : UInt8
  data : UInt8
  /-- The payload as hexadecimal digits. -/
  hex : Option String := none
  /-- The payload as text. -/
  text : Option String := none
  seq : UInt8 := 0
  flags : UInt8 := 0
  wire : WireOptions := {}
  deriving DecidableEq

/-- Find the frames in a capture. -/
structure DecodeCommand where
  /-- The capture file; without one, standard input. -/
  input : Option String := none
  /-- The capture is given as hexadecimal digits. -/
  hex : Bool := false
  wire : WireOptions := {}
  deriving DecidableEq

/-- Watch a device. -/
structure MonitorCommand where
  /-- The device. -/
  device : String
  /-- The time between reports. -/
  interval : String := "1s"
  /-- The number of frames after which to stop. -/
  count : Option Nat := none
  /-- Ask for feedback. -/
  requestFeedback : Bool := false
  /-- Write nothing to the device. -/
  listenOnly : Bool := false
  wire : WireOptions := {}
  deriving DecidableEq

/-- A command, with what it was given. -/
inductive Command where
  | encode (c : EncodeCommand)
  | decode (c : DecodeCommand)
  | monitor (c : MonitorCommand)
  | version (extended : Bool)
  deriving DecidableEq

/-- A command, and the format asked for. -/
structure Invocation where
  format : Option OutputFormat
  command : Command
  deriving DecidableEq

namespace Command

/-- The options of every command. -/
def sharedOptions : List OptionSpec :=
  [{ name := "format", value := some fun v => (OutputFormat.ofName? v).isSome },
    { name := "log-format", value := some fun v => ["text", "json"].contains v },
    { name := "log-level"
      value := some fun v => ["error", "warn", "info", "debug", "trace"].contains v },
    { name := "help", letter := some 'h', asks := true }]

/-- An option whose value is a byte. -/
def byteOption (name : String) (letter : Option Char) : OptionSpec :=
  { name, letter, value := some fun v => (Numeral.byte? v.toList).isSome }

/-- An option whose value is a number. -/
def numberOption (name : String) : OptionSpec :=
  { name, value := some fun v => (Numeral.unsigned? v.toList).isSome }

/-- An option whose value is any text. -/
def textOption (name : String) : OptionSpec :=
  { name, value := some fun _ => true }

/-- The options of the frame format. -/
def wireOptions : List OptionSpec :=
  [{ name := "no-crc" }, numberOption "max-payload"]

/-- What may stand before the command's name. -/
def programGrammar : Grammar where
  options := sharedOptions ++ [{ name := "version", letter := some 'V', asks := true }]

def encodeGrammar : Grammar where
  options := sharedOptions ++ wireOptions ++
    [byteOption "component" (some 'c'), byteOption "data" (some 'd'), textOption "hex",
      textOption "text", byteOption "seq" none, byteOption "flags" none]

def decodeGrammar : Grammar where
  options := sharedOptions ++ wireOptions ++ [{ name := "hex" }]
  words := ["input"]

def monitorGrammar : Grammar where
  options := sharedOptions ++ wireOptions ++
    [textOption "interval", numberOption "count", { name := "request-feedback" },
      { name := "listen-only" }]
  words := ["device"]

def versionGrammar : Grammar where
  options := sharedOptions ++ [{ name := "extended" }]

/-- The byte given for a name. -/
def byte? (given : Given) (name : String) : Option UInt8 :=
  (given.get? name).bind fun v => Numeral.byte? v.toList

/-- The number given for a name. -/
def number? (given : Given) (name : String) : Option Nat :=
  (given.get? name).bind fun v => Numeral.unsigned? v.toList

/-- The frame format given. -/
def wire (given : Given) : WireOptions where
  noCrc := given.has "no-crc"
  maxPayload := (number? given "max-payload").getD 512

/-- The encode command: component and data are needed, and the payload is
given at most once. -/
def encode? (given : Given) : Option Command :=
  match byte? given "component", byte? given "data" with
  | some component, some data =>
    if given.has "hex" && given.has "text" then none
    else some (.encode
      { component, data
        hex := given.get? "hex"
        text := given.get? "text"
        seq := (byte? given "seq").getD 0
        flags := (byte? given "flags").getD 0
        wire := wire given })
  | _, _ => none

/-- The decode command. -/
def decode? (given : Given) : Option Command :=
  some (.decode { input := given.get? "input", hex := given.has "hex", wire := wire given })

/-- The monitor command: a device is needed, and asking for feedback excludes
writing nothing. -/
def monitor? (given : Given) : Option Command :=
  match given.get? "device" with
  | none => none
  | some device =>
    if given.has "request-feedback" && given.has "listen-only" then none
    else some (.monitor
      { device
        interval := (given.get? "interval").getD "1s"
        count := number? given "count"
        requestFeedback := given.has "request-feedback"
        listenOnly := given.has "listen-only"
        wire := wire given })

/-- The version command. -/
def version? (given : Given) : Option Command :=
  some (.version (given.has "extended"))

/-- The grammar of a command by its name, and what it makes of its options. -/
def named? : String → Option (Grammar × (Given → Option Command))
  | "encode" => some (encodeGrammar, encode?)
  | "decode" => some (decodeGrammar, decode?)
  | "monitor" => some (monitorGrammar, monitor?)
  | "version" => some (versionGrammar, version?)
  | _ => none

/-- Whether help can be had for the words after `help`: for the program or
for one command. -/
def helpTopic : List String → Except ReadingEnd Invocation
  | [] => .error .asked
  | [name] => if name = "help" || (named? name).isSome then .error .asked else .error .refused
  | _ => .error .refused

/-- The output format given, if one is. -/
def format? (given : Given) : Option OutputFormat :=
  (given.get? "format").bind OutputFormat.ofName?

/-- Read what follows a command's name. -/
def readNamed (name : String) (rest : List String) :
    Except ReadingEnd (Option OutputFormat × Command) :=
  match named? name with
  | none => .error .refused
  | some (grammar, make) =>
    match grammar.read rest {} with
    | .error stop => .error stop
    | .ok given =>
      match make given with
      | some command => .ok (format? given, command)
      | none => .error .refused

/-- An option's value that stands as a word of its own before the command's
name. It is looked at when the next option is reached, or after all that
follows the command's name. -/
structure Held where
  spec : OptionSpec
  admitted : String → Bool
  value : String

/-- Look at the value held. -/
def settle (held : Option Held) (given : Given) : Except ReadingEnd Given :=
  match held with
  | none => .ok given
  | some h => Grammar.takeValue h.spec h.admitted h.value given

/-- Read a command line up to the command's name and beyond. -/
def readFrom : List String → Option Held → Given → Except ReadingEnd Invocation
  | [], _, _ => .error .refused
  | text :: rest, held, given =>
    match Token.ofWord text with
    | .escape => .error .refused
    | .word "help" => helpTopic rest
    | .word name =>
      match readNamed name rest with
      | .error stop => .error stop
      | .ok (format, command) =>
        match settle held given with
        | .error stop => .error stop
        | .ok given =>
          .ok { format := format <|> format? given, command }
    | token =>
      match settle held given with
      | .error stop => .error stop
      | .ok given =>
        match programGrammar.takeOption token given with
        | .error stop => .error stop
        | .ok (.done given) => readFrom rest none given
        | .ok (.needsValue spec admitted given) =>
          match rest with
          | value :: rest =>
            if (Token.ofWord value).isWord then
              readFrom rest (some { spec, admitted, value }) given
            else .error .refused
          | [] => .error .refused

/-- Read a command line. -/
def read (arguments : List String) : Except ReadingEnd Invocation :=
  readFrom arguments none {}

end Command

end ServoLink
