import ServoLink.CommandLine.Command
import ServoLink.Proofs.Text.Digits

/-!
# Words that ask for a command

Options that a grammar admits, each of them once, are read as what they give, in whatever
order they stand (`Grammar.read_words`). With such words the encode and the decode command can
be asked for, whatever they are to be given (`EncodeCommand.read_words`,
`DecodeCommand.read_words`).
-/

namespace ServoLink

/-! ## Options -/

/-- An option to be given: its name, and its value unless it is a flag. -/
abbrev Argument := String × Option String

namespace Argument

/-- The word for an option. A value stands behind an equals sign. -/
def word : Argument → String
  | (name, some value) => "--" ++ name ++ "=" ++ value
  | (name, none) => "--" ++ name

/-- Whether an option can have a name: one that is there, and no equals sign in it. -/
def isName (name : String) : Bool :=
  !name.toList.isEmpty && name.toList.all (· != '=')

/-- What is given by it. -/
def entry (a : Argument) : String × String :=
  (a.1, a.2.getD "")

end Argument

/-- Two dashes are the beginning of a long option, if anything follows. -/
theorem Token.ofWord_of_toList {text : String} {c : Char} {rest : List Char}
    (h : text.toList = '-' :: '-' :: c :: rest) :
    ofWord text = match (c :: rest).dropWhile (· != '=') with
      | [] => .long (String.ofList ((c :: rest).takeWhile (· != '='))) none
      | _ :: value =>
        .long (String.ofList ((c :: rest).takeWhile (· != '='))) (some (String.ofList value)) := by
  unfold ofWord
  rw [h]
  rfl

/-- **The word for an option is read as that option**, with whatever text as its value. -/
theorem Token.ofWord_word {name : String} (hname : Argument.isName name = true)
    (value : Option String) : ofWord (Argument.word (name, value)) = .long name value := by
  obtain ⟨hsome, hplain⟩ := Bool.and_eq_true_iff.1 hname
  rw [List.all_eq_true] at hplain
  let behind := value.elim [] ('=' :: ·.toList)
  have htext : (Argument.word (name, value)).toList = '-' :: '-' :: (name.toList ++ behind) := by
    cases value <;> simp [Argument.word, behind]
  obtain ⟨c, cs, hcons⟩ := List.exists_cons_of_ne_nil
    (List.isEmpty_eq_false_iff.1 (Bool.not_eq_true' _ ▸ hsome))
  rw [hcons, List.cons_append] at htext
  rw [ofWord_of_toList htext, ← List.cons_append, ← hcons, List.dropWhile_append_of_pos hplain,
    List.takeWhile_append_of_pos hplain]
  cases value <;> simp [behind]

namespace Grammar

/-- A grammar admits an option, with its value. -/
inductive Admits (g : Grammar) : Argument → Prop
  | value {name value : String} {spec : OptionSpec} {admitted : String → Bool}
      (hname : Argument.isName name = true) (hspec : g.long? name = some spec)
      (hvalue : spec.value = some admitted) (hadmitted : admitted value = true) :
      Admits g (name, some value)
  | flag {name : String} {spec : OptionSpec}
      (hname : Argument.isName name = true) (hspec : g.long? name = some spec)
      (hvalue : spec.value = none) (hasks : spec.asks = false) : Admits g (name, none)

variable {g : Grammar} {a : Argument} {args : List Argument} {given : Given}

/-- The option of a name has this name. -/
theorem name_of_long? {name : String} {spec : OptionSpec} (h : g.long? name = some spec) :
    spec.name = name := by
  have hfound := List.find?_some h
  exact beq_iff_eq.1 hfound

/-- **An admitted option is given**, if it was not given before. -/
theorem read_word (ha : g.Admits a) (hnew : given.has a.1 = false) (rest : List String) :
    g.read (a.word :: rest) given
      = g.read rest { given with entries := a.entry :: given.entries } := by
  cases ha with
  | value hname hspec hvalue hadmitted =>
    rw [read, Token.ofWord_word hname]
    simp [takeOption, hspec, hvalue, hadmitted, takeValue, Given.insert, name_of_long? hspec, hnew,
      Except.map, Argument.entry]
  | flag hname hspec hvalue hasks =>
    rw [read, Token.ofWord_word hname]
    simp [takeOption, hspec, hvalue, hasks, takeFlag, Given.insert, name_of_long? hspec, hnew,
      Except.map, Argument.entry]

/-- Another name was not given with it. -/
theorem has_cons {a : Argument} {name : String} (hne : name ≠ a.1) (hnew : given.has name = false) :
    Given.has { given with entries := a.entry :: given.entries } name = false := by
  unfold Given.has Given.get? at hnew ⊢
  rwa [Argument.entry, List.lookup_cons, beq_eq_false_iff_ne.2 hne]

/-- **Admitted options, each given once**, are read as what they give, behind what was given
before. -/
theorem read_words_of_has (hadmits : ∀ a ∈ args, g.Admits a) (honce : (args.map (·.1)).Nodup)
    (hnew : ∀ a ∈ args, given.has a.1 = false) :
    g.read (args.map Argument.word) given
      = .ok { given with entries := (args.map Argument.entry).reverse ++ given.entries } := by
  induction args generalizing given with
  | nil => rw [List.map_nil, read]; rfl
  | cons a args ih =>
    rw [List.forall_mem_cons] at hadmits hnew
    rw [List.map_cons, List.nodup_cons] at honce
    rw [List.map_cons, read_word hadmits.1 hnew.1,
      ih hadmits.2 honce.2 fun b hb => has_cons (fun h => ?_) (hnew.2 b hb)]
    · simp
    · exact honce.1 (h ▸ List.mem_map_of_mem hb)

end Grammar

/-- What some options give, each given once. -/
def Given.ofArguments (args : List Argument) : Given where
  entries := (args.map Argument.entry).reverse

namespace Given

variable {args : List Argument} {name : String}

/-- What is given by an option is had by its name. -/
theorem get?_of_mem (honce : (args.map (·.1)).Nodup) {a : Argument} (ha : a ∈ args) :
    (ofArguments args).get? a.1 = some a.entry.2 := by
  obtain ⟨front, back, rfl⟩ := List.append_of_mem ha
  refine List.lookup_eq_some_iff.2 ⟨(back.map Argument.entry).reverse,
    (front.map Argument.entry).reverse, by simp [ofArguments, Argument.entry], fun p hp => ?_⟩
  -- what was given later has other names
  obtain ⟨b, hb, rfl⟩ := List.mem_map.1 (List.mem_reverse.1 hp)
  rw [List.map_append, List.nodup_append, List.map_cons, List.nodup_cons] at honce
  exact bne_iff_ne.2 fun hsame => honce.2.1.1 (hsame ▸ List.mem_map_of_mem hb)

/-- Nothing is had by another name. -/
theorem get?_of_not_mem (h : name ∉ args.map (·.1)) : (ofArguments args).get? name = none := by
  refine List.lookup_eq_none_iff.2 fun p hp => ?_
  obtain ⟨a, ha, rfl⟩ := List.mem_map.1 (List.mem_reverse.1 hp)
  exact bne_iff_ne.2 fun hsame => h (hsame ▸ List.mem_map_of_mem ha)

/-- **The value that an option was given with, if it was given**, is had by its name. -/
theorem get?_eq (honce : (args.map (·.1)).Nodup) {value : Option String}
    (hgiven : ∀ v, value = some v → (name, some v) ∈ args)
    (hnot : value = none → name ∉ args.map (·.1)) : (ofArguments args).get? name = value := by
  cases value with
  | none => exact get?_of_not_mem (hnot rfl)
  | some v => exact get?_of_mem honce (hgiven v rfl)

/-- So it is known whether a flag was given. -/
theorem has_eq (honce : (args.map (·.1)).Nodup) {flag : Bool}
    (hgiven : flag = true → (name, none) ∈ args)
    (hnot : flag = false → name ∉ args.map (·.1)) : (ofArguments args).has name = flag := by
  cases flag with
  | false => exact congrArg Option.isSome (get?_of_not_mem (hnot rfl))
  | true => exact congrArg Option.isSome (get?_of_mem honce (hgiven rfl))

end Given

/-- **Admitted options, each given once**, are read as what they give. -/
theorem Grammar.read_words {g : Grammar} {args : List Argument} (hadmits : ∀ a ∈ args, g.Admits a)
    (honce : (args.map (·.1)).Nodup) :
    g.read (args.map Argument.word) {} = .ok (.ofArguments args) := by
  rw [read_words_of_has hadmits honce fun _ _ => rfl]
  exact congrArg (fun entries => Except.ok (Given.mk entries 0)) (List.append_nil _)

/-! ## Commands -/

/-- The name of a format. -/
def OutputFormat.name : OutputFormat → String
  | .json => "json"
  | .table => "table"
  | .pretty => "pretty"
  | .raw => "raw"

theorem OutputFormat.ofName?_name (f : OutputFormat) : ofName? f.name = some f := by
  cases f <;> rfl

/-- The option for a format, if one is asked for. -/
def OutputFormat.arguments (format : Option OutputFormat) : List Argument :=
  (format.map fun f => ("format", some f.name)).toList

/-- The options for a frame format. -/
def WireOptions.arguments (w : WireOptions) : List Argument :=
  ("max-payload", some (toString w.maxPayload)) :: if w.noCrc then [("no-crc", none)] else []

/-- Options of a command's own, with those that the two commands have in common. -/
def Command.arguments (own : List Argument) (w : WireOptions) (format : Option OutputFormat) :
    List Argument :=
  own ++ (w.arguments ++ OutputFormat.arguments format)

/-- The options that only an encode command has. -/
def EncodeCommand.arguments (c : EncodeCommand) : List Argument :=
  [("component", some (toString c.component.toNat)), ("data", some (toString c.data.toNat)),
      ("seq", some (toString c.seq.toNat)), ("flags", some (toString c.flags.toNat))]
    ++ (c.hex.map fun digits => ("hex", some digits)).toList
    ++ (c.text.map fun text => ("text", some text)).toList

/-- The options that only a decode command has. -/
def DecodeCommand.arguments (d : DecodeCommand) : List Argument :=
  if d.hex then [("hex", none)] else []

/-- The words for an encode command. -/
def EncodeCommand.words (c : EncodeCommand) (format : Option OutputFormat) : List String :=
  "encode" :: (Command.arguments c.arguments c.wire format).map Argument.word

/-- The words for a decode command that reads standard input. -/
def DecodeCommand.words (d : DecodeCommand) (format : Option OutputFormat) : List String :=
  "decode" :: (Command.arguments d.arguments d.wire format).map Argument.word

/-! ### What the two commands have in common -/

namespace Command

variable {own : List Argument} {w : WireOptions} {format : Option OutputFormat} {g : Grammar}
  {given : Given}

/-- The names of the options that both commands have. -/
def commonNames : List String :=
  ["max-payload", "no-crc", "format"]

/-- The options are among these, and each is there once at most. -/
theorem sublist_commonNames (w : WireOptions) (format : Option OutputFormat) :
    ((w.arguments ++ OutputFormat.arguments format).map (·.1)).Sublist commonNames := by
  unfold WireOptions.arguments OutputFormat.arguments commonNames
  cases w.noCrc <;> cases format <;> simp

/-- Options of a command's own have other names, each its own. -/
structure Own (own : List Argument) : Prop where
  once : (own.map (·.1)).Nodup
  other : ∀ name ∈ own.map (·.1), name ∉ commonNames

/-- Then no option is given twice. -/
theorem Own.nodup (h : Own own) (w : WireOptions) (format : Option OutputFormat) :
    ((arguments own w format).map (·.1)).Nodup := by
  have hcommon := sublist_commonNames w format
  unfold arguments
  rw [List.map_append, List.nodup_append]
  refine ⟨h.once, hcommon.nodup (by simp [commonNames]), fun name hname other hother hsame => ?_⟩
  exact h.other name hname (hcommon.subset (hsame ▸ hother))

/-- No other option is given. -/
theorem not_mem_arguments {name : String} (hown : name ∉ own.map (·.1))
    (hcommon : name ∉ (w.arguments ++ OutputFormat.arguments format).map (·.1)) :
    name ∉ (arguments own w format).map (·.1) := by
  unfold arguments
  rw [List.map_append, List.mem_append]
  exact not_or.2 ⟨hown, hcommon⟩

/-- The frame format is read from its options. -/
theorem wire_arguments (h : Own own) (hmax : w.maxPayload < 2 ^ 64) :
    wire (.ofArguments (arguments own w format)) = w := by
  have hnumber : (Given.ofArguments (arguments own w format)).get? "max-payload"
      = some (toString w.maxPayload) :=
    Given.get?_eq (h.nodup w format) (by simp [arguments, WireOptions.arguments]) nofun
  have hflag : (Given.ofArguments (arguments own w format)).has "no-crc" = w.noCrc :=
    Given.has_eq (h.nodup w format) (fun hset => by simp [arguments, WireOptions.arguments, hset])
      fun hnot => not_mem_arguments (fun hmem => h.other _ hmem (by simp [commonNames]))
        (by simp [WireOptions.arguments, OutputFormat.arguments, hnot])
  unfold wire number?
  rw [hnumber, hflag, Option.bind_some, Numeral.unsigned?_toString hmax]
  rfl

/-- The output format is read from its option, if it is there. -/
theorem format?_arguments (h : Own own) :
    format? (.ofArguments (arguments own w format)) = format := by
  have hformat : (Given.ofArguments (arguments own w format)).get? "format"
      = format.map OutputFormat.name :=
    Given.get?_eq (h.nodup w format) (fun v hset => by
        obtain ⟨f, rfl, rfl⟩ := Option.map_eq_some_iff.1 hset
        simp [arguments, OutputFormat.arguments])
      fun hnot => not_mem_arguments (fun hmem => h.other _ hmem (by simp [commonNames])) (by
        obtain rfl := Option.map_eq_none_iff.1 hnot
        simp [WireOptions.arguments, OutputFormat.arguments])
  unfold format?
  rw [hformat]
  cases format with
  | none => rfl
  | some f => exact f.ofName?_name

/-- Both commands admit the options that they have in common. -/
theorem admits_arguments (hown : ∀ a ∈ own, g.Admits a) (hmax : w.maxPayload < 2 ^ 64)
    (hnumber : g.long? "max-payload" = some (numberOption "max-payload"))
    (hflag : g.long? "no-crc" = some { name := "no-crc" })
    (hformat : g.long? "format"
      = some { name := "format", value := some fun v => (OutputFormat.ofName? v).isSome }) :
    ∀ a ∈ arguments own w format, g.Admits a := by
  have hadmitted : (Numeral.unsigned? (toString w.maxPayload).toList).isSome = true := by
    rw [Numeral.unsigned?_toString hmax]
    rfl
  unfold arguments WireOptions.arguments OutputFormat.arguments
  rw [List.forall_mem_append, List.forall_mem_append, List.forall_mem_cons]
  refine ⟨hown, ⟨.value rfl hnumber rfl hadmitted, ?_⟩, ?_⟩
  · cases w.noCrc with
    | false => simp
    | true => exact List.forall_mem_singleton.2 (.flag rfl hflag rfl rfl)
  · cases format with
    | none => simp
    | some f =>
      have hname : (OutputFormat.ofName? f.name).isSome = true := by rw [f.ofName?_name]; rfl
      exact List.forall_mem_singleton.2 (.value rfl hformat rfl hname)

/-- **The words behind a command's name ask for what the command makes of its options.** -/
theorem read_of_arguments {name : String} {make : Given → Option Command} {command : Command}
    (hname : name = "encode" ∨ name = "decode") (hnamed : named? name = some (g, make))
    (hown : Own own) (hadmits : ∀ a ∈ arguments own w format, g.Admits a)
    (hmake : make (.ofArguments (arguments own w format)) = some command) :
    read (name :: (arguments own w format).map Argument.word) = .ok { format, command } := by
  have hrest : readNamed name ((arguments own w format).map Argument.word)
      = .ok (format, command) := by
    unfold readNamed
    rw [hnamed]
    dsimp only
    rw [Grammar.read_words hadmits (hown.nodup w format)]
    dsimp only
    rw [hmake, format?_arguments hown]
  have hword : Token.ofWord name = .word name ∧ name ≠ "help" := by
    rcases hname with rfl | rfl <;> exact ⟨rfl, by decide⟩
  unfold read readFrom
  rw [hword.1]
  split
  · contradiction
  · rename_i hhelp
    exact absurd (Token.word.inj hhelp) hword.2
  · rename_i hsame
    obtain rfl := Token.word.inj hsame
    rw [hrest]
    cases format <;> rfl
  · rename_i hother
    exact absurd rfl (hother name)

/-- A byte is read from its option. -/
theorem byte?_of_get? {name : String} {b : UInt8}
    (h : given.get? name = some (toString b.toNat)) : byte? given name = some b := by
  unfold byte?
  rw [h, Option.bind_some, Numeral.byte?_toString]

end Command

/-! ### Asking for them -/

namespace EncodeCommand

variable {c : EncodeCommand} {format : Option OutputFormat}

theorem own_arguments (c : EncodeCommand) : Command.Own c.arguments := by
  unfold arguments
  constructor <;> cases c.hex <;> cases c.text <;> simp [Command.commonNames]

theorem admits_arguments (c : EncodeCommand) :
    ∀ a ∈ c.arguments, Command.encodeGrammar.Admits a := by
  have byte (b : UInt8) : (Numeral.byte? (toString b.toNat).toList).isSome = true := by
    rw [Numeral.byte?_toString]
    rfl
  have text {name : String} (hname : Argument.isName name = true)
      (hspec : Command.encodeGrammar.long? name = some (Command.textOption name))
      (value : Option String) :
      ∀ a ∈ (value.map fun v => (name, some v)).toList, Command.encodeGrammar.Admits a := by
    intro a ha
    obtain ⟨v, -, rfl⟩ := Option.map_eq_some_iff.1 (Option.mem_toList.1 ha)
    exact .value hname hspec rfl rfl
  unfold arguments
  simp only [List.forall_mem_append, List.forall_mem_cons, List.not_mem_nil, false_imp_iff,
    implies_true, and_true]
  exact ⟨⟨⟨.value rfl rfl rfl (byte _), .value rfl rfl rfl (byte _), .value rfl rfl rfl (byte _),
    .value rfl rfl rfl (byte _)⟩, text rfl rfl _⟩, text rfl rfl _⟩

/-- The command is made of its options. -/
theorem encode?_arguments (hone : c.hex = none ∨ c.text = none)
    (hmax : c.wire.maxPayload < 2 ^ 64) :
    Command.encode? (.ofArguments (Command.arguments c.arguments c.wire format))
      = some (.encode c) := by
  let given := Given.ofArguments (Command.arguments c.arguments c.wire format)
  have honce := c.own_arguments.nodup c.wire format
  have hcomponent : given.get? "component" = some (toString c.component.toNat) :=
    Given.get?_eq honce (by simp [Command.arguments, arguments]) nofun
  have hdata : given.get? "data" = some (toString c.data.toNat) :=
    Given.get?_eq honce (by simp [Command.arguments, arguments]) nofun
  have hseq : given.get? "seq" = some (toString c.seq.toNat) :=
    Given.get?_eq honce (by simp [Command.arguments, arguments]) nofun
  have hflags : given.get? "flags" = some (toString c.flags.toNat) :=
    Given.get?_eq honce (by simp [Command.arguments, arguments]) nofun
  have habsent {name : String} (hown : name ∉ c.arguments.map (·.1))
      (hcommon : name ∉ Command.commonNames) :
      name ∉ (Command.arguments c.arguments c.wire format).map (·.1) :=
    Command.not_mem_arguments hown fun h =>
      hcommon ((Command.sublist_commonNames c.wire format).subset h)
  have hhex : given.get? "hex" = c.hex :=
    Given.get?_eq honce (fun _ h => by simp [Command.arguments, arguments, h])
      fun h => habsent (by simp [arguments, h]) (by simp [Command.commonNames])
  have htext : given.get? "text" = c.text :=
    Given.get?_eq honce (fun _ h => by simp [Command.arguments, arguments, h])
      fun h => habsent (by simp [arguments, h]) (by simp [Command.commonNames])
  -- one payload is given at most
  have hboth : (given.has "hex" && given.has "text") = false := by
    unfold Given.has
    rw [hhex, htext]
    rcases hone with h | h <;> rw [h] <;> simp
  have hwire : Command.wire given = c.wire := Command.wire_arguments c.own_arguments hmax
  show Command.encode? given = _
  unfold Command.encode?
  rw [Command.byte?_of_get? hcomponent, Command.byte?_of_get? hdata,
    Command.byte?_of_get? hseq, Command.byte?_of_get? hflags, hwire]
  dsimp only
  rw [hboth, hhex, htext]
  rfl

/-- **Every encode command can be asked for** that is given one payload at most, and a limit
that is a number of 64 bits. -/
theorem read_words (format : Option OutputFormat) (hone : c.hex = none ∨ c.text = none)
    (hmax : c.wire.maxPayload < 2 ^ 64) :
    Command.read (c.words format) = .ok { format, command := .encode c } :=
  Command.read_of_arguments (.inl rfl) rfl c.own_arguments
    (Command.admits_arguments c.admits_arguments hmax rfl rfl rfl) (encode?_arguments hone hmax)

end EncodeCommand

namespace DecodeCommand

variable {d : DecodeCommand} {format : Option OutputFormat}

theorem own_arguments (d : DecodeCommand) : Command.Own d.arguments := by
  unfold arguments
  constructor <;> cases d.hex <;> simp [Command.commonNames]

theorem admits_arguments (d : DecodeCommand) :
    ∀ a ∈ d.arguments, Command.decodeGrammar.Admits a := by
  unfold arguments
  split
  · exact List.forall_mem_singleton.2 (.flag rfl rfl rfl rfl)
  · simp

/-- The command is made of its options. -/
theorem decode?_arguments (hinput : d.input = none) (hmax : d.wire.maxPayload < 2 ^ 64) :
    Command.decode? (.ofArguments (Command.arguments d.arguments d.wire format))
      = some (.decode d) := by
  let given := Given.ofArguments (Command.arguments d.arguments d.wire format)
  have habsent {name : String} (hown : name ∉ d.arguments.map (·.1))
      (hcommon : name ∉ Command.commonNames) :
      name ∉ (Command.arguments d.arguments d.wire format).map (·.1) :=
    Command.not_mem_arguments hown fun h =>
      hcommon ((Command.sublist_commonNames d.wire format).subset h)
  have hpath : given.get? "input" = none := by
    refine Given.get?_of_not_mem (habsent ?_ (by simp [Command.commonNames]))
    unfold arguments
    cases d.hex <;> simp
  have hhex : given.has "hex" = d.hex :=
    Given.has_eq (d.own_arguments.nodup d.wire format)
      (fun h => by simp [Command.arguments, arguments, h])
      fun h => habsent (by simp [arguments, h]) (by simp [Command.commonNames])
  have hwire : Command.wire given = d.wire := Command.wire_arguments d.own_arguments hmax
  show Command.decode? given = _
  unfold Command.decode?
  rw [hpath, hhex, hwire, ← hinput]

/-- **Every decode command can be asked for** that reads standard input. -/
theorem read_words (format : Option OutputFormat) (hinput : d.input = none)
    (hmax : d.wire.maxPayload < 2 ^ 64) :
    Command.read (d.words format) = .ok { format, command := .decode d } :=
  Command.read_of_arguments (.inr rfl) rfl d.own_arguments
    (Command.admits_arguments d.admits_arguments hmax rfl rfl rfl) (decode?_arguments hinput hmax)

end DecodeCommand

end ServoLink
