/-!
# Options

The words of a command line are options and plain words. An option has a long
name after two dashes, some have a letter after one dash as well, and it is
either a flag or takes a value: behind an equals sign, behind its letter, or
as the next word. Every option is given at most once. Two dashes alone make
all that follows plain words.
-/

namespace ServoLink

/-- An option of a command. -/
structure OptionSpec where
  /-- The long name. -/
  name : String
  /-- The letter, if it has one. -/
  letter : Option Char := none
  /-- Which values are admitted; a flag takes none. -/
  value : Option (String → Bool) := none
  /-- Whether the option asks for a text about the program, which ends the
  reading. -/
  asks : Bool := false

/-- What a command line may hold. -/
structure Grammar where
  /-- The options. -/
  options : List OptionSpec
  /-- The names of the plain words, in order. -/
  words : List String := []

/-- Why the reading of a command line ended early. -/
inductive ReadingEnd where
  /-- A text about the program was asked for. -/
  | asked
  /-- The words are not admitted. -/
  | refused
  deriving DecidableEq

/-- The options and words given, by name. -/
structure Given where
  /-- Name and value of each; the value of a flag is empty. -/
  entries : List (String × String) := []
  /-- The number of plain words among them. -/
  words : Nat := 0
  deriving DecidableEq

namespace Given

/-- The value given for a name. -/
def get? (g : Given) (name : String) : Option String :=
  g.entries.lookup name

/-- Whether a name was given. -/
def has (g : Given) (name : String) : Bool :=
  (g.get? name).isSome

/-- Take a value for a name. Giving one twice is refused. -/
def insert (g : Given) (name value : String) : Except ReadingEnd Given :=
  if g.has name then .error .refused
  else .ok { g with entries := (name, value) :: g.entries }

end Given

/-- How a word of a command line is read. -/
inductive Token where
  /-- Two dashes alone. -/
  | escape
  /-- A long option, perhaps with a value behind an equals sign. -/
  | long (name : String) (value : Option String)
  /-- Letters after one dash. -/
  | letters (text : List Char)
  /-- A plain word. -/
  | word (text : String)
  deriving DecidableEq

/-- Read one word of a command line. -/
def Token.ofWord (text : String) : Token :=
  match text.toList with
  | '-' :: '-' :: [] => .escape
  | '-' :: '-' :: rest =>
    let name := rest.takeWhile (· != '=')
    match rest.dropWhile (· != '=') with
    | [] => .long (String.ofList name) none
    | _ :: value => .long (String.ofList name) (some (String.ofList value))
  | '-' :: c :: rest => .letters (c :: rest)
  | _ => .word text

/-- Whether a word can be the value of the option before it. -/
def Token.isWord : Token → Bool
  | .word _ => true
  | _ => false

namespace Grammar

/-- The option of a long name. -/
def long? (g : Grammar) (name : String) : Option OptionSpec :=
  g.options.find? (·.name == name)

/-- The option of a letter. -/
def letter? (g : Grammar) (c : Char) : Option OptionSpec :=
  g.options.find? (·.letter == some c)

/-- Take an option that is given without a value. -/
def takeFlag (spec : OptionSpec) (given : Given) : Except ReadingEnd Given :=
  if spec.asks then .error .asked else given.insert spec.name ""

/-- Take an option that is given with a value. -/
def takeValue (spec : OptionSpec) (admitted : String → Bool) (value : String) (given : Given) :
    Except ReadingEnd Given :=
  if admitted value then given.insert spec.name value else .error .refused

/-- Take a plain word: the next one that the grammar names, which must not be
empty. -/
def takeWord (g : Grammar) (text : String) (given : Given) : Except ReadingEnd Given :=
  match g.words[given.words]? with
  | none => .error .refused
  | some name =>
    if text.isEmpty then .error .refused
    else { given with words := given.words + 1 }.insert name text

/-- Take what follows two dashes. -/
def takeWords (g : Grammar) : List String → Given → Except ReadingEnd Given
  | [], given => .ok given
  | text :: rest, given =>
    match g.takeWord text given with
    | .ok given => g.takeWords rest given
    | .error stop => .error stop

/-- What is left to do after letters have been taken: nothing, or to take the
next word as the value of an option. -/
inductive AfterLetters where
  | done (given : Given)
  | needsValue (spec : OptionSpec) (admitted : String → Bool) (given : Given)

/-- Take the letters after one dash. Flags may share a dash; an option with a
value takes the rest, without an equals sign in front. -/
def takeLetters (g : Grammar) : List Char → Given → Except ReadingEnd AfterLetters
  | [], given => .ok (.done given)
  | c :: rest, given =>
    match g.letter? c with
    | none => .error .refused
    | some spec =>
      match spec.value with
      | none =>
        match takeFlag spec given with
        | .ok given => g.takeLetters rest given
        | .error stop => .error stop
      | some admitted =>
        match rest with
        | [] => .ok (.needsValue spec admitted given)
        | '=' :: value => (takeValue spec admitted (String.ofList value) given).map .done
        | value => (takeValue spec admitted (String.ofList value) given).map .done

/-- The option that a word begins with no value of its own, or what is given
once the word has been taken. -/
def takeOption (g : Grammar) (token : Token) (given : Given) : Except ReadingEnd AfterLetters :=
  match token with
  | .letters text => g.takeLetters text given
  | .long name attached =>
    match g.long? name with
    | none => .error .refused
    | some spec =>
      match spec.value, attached with
      | none, none => (takeFlag spec given).map .done
      | none, some _ => .error .refused
      | some admitted, some value => (takeValue spec admitted value given).map .done
      | some admitted, none => .ok (.needsValue spec admitted given)
  | .word text => (g.takeWord text given).map .done
  | .escape => .ok (.done given)

/-- Read the words of a command. -/
def read (g : Grammar) : List String → Given → Except ReadingEnd Given
  | [], given => .ok given
  | text :: rest, given =>
    match Token.ofWord text with
    | .escape => g.takeWords rest given
    | token =>
      match g.takeOption token given with
      | .error stop => .error stop
      | .ok (.done given) => g.read rest given
      | .ok (.needsValue spec admitted given) =>
        match rest with
        | value :: rest =>
          if (Token.ofWord value).isWord then
            match takeValue spec admitted value given with
            | .ok given => g.read rest given
            | .error stop => .error stop
          else .error .refused
        | [] => .error .refused

end Grammar

end ServoLink
