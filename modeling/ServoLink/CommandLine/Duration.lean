import ServoLink.CommandLine.ExitCode
import ServoLink.Text.Blank
import ServoLink.Text.Numeral

/-!
# Durations

A duration is a numeral, in seconds unless a unit says otherwise: `ms` for
milliseconds, `s` for seconds. Blanks around it do not count.
-/

namespace ServoLink

/-- Take a text off the end of another, if it stands there. -/
def stripEnd? (ending text : List Char) : Option (List Char) :=
  if ending.isSuffixOf text then some (text.take (text.length - ending.length)) else none

namespace Duration

/-- The unit at the end of a duration, in milliseconds, and the numeral
before it. -/
def splitUnit (text : List Char) : Nat × List Char :=
  match stripEnd? ['m', 's'] text with
  | some numeral => (1, numeral)
  | none =>
    match stripEnd? ['s'] text with
    | some numeral => (1000, numeral)
    | none => (1000, text)

/-- Read a duration, in milliseconds. -/
def parse (input : String) : Except CommandError Nat :=
  let text := trimBlank input.toList
  if text.isEmpty then
    .error { code := .usage, message := "duration must not be empty" }
  else
    let (unit, numeral) := splitUnit text
    match Numeral.unsigned? numeral with
    | none =>
      .error
        { code := .usage, message := "invalid duration value: " ++ String.ofList text }
    | some 0 => .error { code := .usage, message := "duration must be greater than zero" }
    | some n => .ok (n * unit)

end Duration

end ServoLink
