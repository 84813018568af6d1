import GrammarCorpus.Argument
import GrammarCorpus.Binary64.Decimal
import GrammarCorpus.Text.Quoted
import GrammarCorpus.Text.Scan

namespace GrammarCorpus

/-!
# Options of a command line

A command line is a list of words. A word is an option, or an argument of an option
or of the command. Long options may be shortened to what no other long option begins
with, and may carry their argument behind an equals sign; short options may carry it
directly behind their letter. Behind the letter of an option without an argument the
letters of further options may follow. Behind two dashes there are no options any more.
A negative numeral is an argument, and so is an unknown word with a blank in it.

What an option does is a function on the record of choices, so a later option
overrides an earlier one.
-/

/-- What an option does with the choices made so far. -/
inductive OptionAction (σ : Type) where
  /-- Asks for help. -/
  | help
  /-- Stands for itself. -/
  | flag (set : σ → σ)
  /-- Wants an integer. -/
  | integer (set : Argument Int → σ → σ)
  /-- Wants a number. -/
  | number (set : Argument Binary64 → σ → σ)
  /-- Wants any text. -/
  | text (set : Argument String → σ → σ)

/-- An option under all its names. -/
structure OptionSpec (σ : Type) where
  names : List String
  action : OptionAction σ

/-- The argument of the command itself. -/
inductive Positional (σ : Type) where
  /-- One word. -/
  | single (name : String) (set : String → σ → σ)
  /-- One of several words, together with all words behind it. -/
  | mode (name : String) (choices : List String) (set : String → List String → σ → σ)

/-- What a command understands. -/
structure CommandSpec (σ : Type) where
  options : List (OptionSpec σ)
  positional : Option (Positional σ)

/-- Why a command line is not understood. -/
inductive UsageError where
  | ambiguous (word : String) (candidates : List String)
  | argumentMissing (option : String)
  | argumentIgnored (option argument : String)
  | notAnInteger (option argument : String)
  | notANumber (option argument : String)
  | notAChoice (name word : String) (choices : List String)
  | required (name : String)
  | unrecognized (words : List String)
  /-- Two choices do not go together. -/
  | conflict (complaint : String)
deriving DecidableEq, Repr

namespace UsageError

/-- The wording of a complaint. -/
def message : UsageError → String
  | ambiguous word candidates =>
      s!"ambiguous option: {word} could match " ++ ", ".intercalate candidates
  | argumentMissing option => s!"argument {option}: expected one argument"
  | argumentIgnored option argument =>
      s!"argument {option}: ignored explicit argument " ++ Text.quoted argument
  | notAnInteger option argument =>
      s!"argument {option}: invalid int value: " ++ Text.quoted argument
  | notANumber option argument =>
      s!"argument {option}: invalid float value: " ++ Text.quoted argument
  | notAChoice name word choices =>
      s!"argument {name}: invalid choice: " ++ Text.quoted word ++ " (choose from " ++
        ", ".intercalate (choices.map Text.quoted) ++ ")"
  | required name => s!"the following arguments are required: {name}"
  | unrecognized words => "unrecognized arguments: " ++ " ".intercalate words
  | conflict complaint => complaint

end UsageError

/-- Why a command line is not carried out. -/
inductive Refusal where
  | usage (error : UsageError)
  /-- Help was asked for. -/
  | help
  /-- An argument is missing where it is needed to tell whether the choices make sense. -/
  | argument (misuse : Misuse)
deriving DecidableEq, Repr

/-- What a word carries to its option. -/
inductive Carried where
  | nothing
  /-- An argument behind the full name of an option and an equals sign. -/
  | argument (text : String)
  /-- What stands behind the letter of an option: its argument, or further letters. -/
  | tail (text : List Char)
deriving DecidableEq, Repr

/-- What a word of a command line is. -/
inductive WordKind (σ : Type) where
  | argument
  /-- Two dashes. -/
  | dashes
  | option (spec : OptionSpec σ) (carried : Carried)
  /-- An option that the command does not have. -/
  | unknown

/-- A word of a command line. -/
structure Word (σ : Type) where
  text : String
  kind : WordKind σ

namespace CommandSpec

variable {σ : Type}

/-- All names with their options, in the order of declaration. -/
def named (spec : CommandSpec σ) : List (String × OptionSpec σ) :=
  spec.options.flatMap fun option => option.names.map fun name => (name, option)

/-- The option of a name. -/
def find? (spec : CommandSpec σ) (name : String) : Option (OptionSpec σ) :=
  spec.named.lookup name

/-- Whether characters are the unsigned part of a numeral: digits, or a point and digits. -/
def isUnsigned (characters : List Char) : Bool :=
  let isDigit (character : Char) : Bool := (Text.digit? character).isSome
  -- A line feed at the very end is passed over.
  let isEnd (rest : List Char) : Bool := rest.isEmpty || rest = ['\n']
  match characters.dropWhile isDigit with
  | '.' :: fraction => fraction.any isDigit && isEnd (fraction.dropWhile isDigit)
  | rest => characters.any isDigit && isEnd rest

/-- The options that a word may mean, by name, with what it carries. -/
def candidates
    (spec : CommandSpec σ)
    (word : List Char) :
    List (String × OptionSpec σ × Carried) :=
  match word with
  | '-' :: '-' :: _ =>
      let (start, carried) :=
        match Text.partition? '=' word with
        | some (start, text) => (start, Carried.argument (String.ofList text))
        | none => (word, Carried.nothing)
      (spec.named.filter fun entry => start.isPrefixOf entry.1.toList).map
        fun (name, option) => (name, option, carried)
  | '-' :: letter :: text =>
      spec.named.filterMap fun (name, option) =>
        if name = String.ofList ['-', letter] then
          some (name, option, .tail text)
        else if word.isPrefixOf name.toList then
          some (name, option, .nothing)
        else
          none
  | _ => []

/-- The option that a word names in full, in front of an equals sign. -/
def namedInFull? (spec : CommandSpec σ) (word : List Char) : Option (WordKind σ) := do
  let (name, text) ← Text.partition? '=' word
  let option ← spec.find? (String.ofList name)
  let isLong := ['-', '-'].isPrefixOf name
  return .option option (if isLong then .argument (String.ofList text) else .tail text)

/-- What a word in front of two dashes is. -/
def classify (spec : CommandSpec σ) (text : String) : Except UsageError (WordKind σ) :=
  match text.toList with
  | '-' :: rest =>
      match spec.find? text, spec.namedInFull? text.toList, spec.candidates text.toList with
      | some option, _, _ => .ok (.option option .nothing)
      | none, some kind, _ => .ok kind
      | none, none, [(_, option, carried)] => .ok (.option option carried)
      | none, none, [] =>
          if rest.isEmpty || isUnsigned rest || rest.contains ' ' then
            .ok .argument
          else
            .ok .unknown
      | none, none, several =>
          if rest.isEmpty then
            .ok .argument
          else
            .error (.ambiguous text (several.map Prod.fst))
  | _ => .ok .argument

/-- What the words of a command line are. Behind two dashes all are arguments. -/
def classifyAll (spec : CommandSpec σ) : List String → Except UsageError (List (Word σ))
  | [] => .ok []
  | text :: rest =>
      if text = "--" then
        .ok (⟨text, .dashes⟩ :: rest.map fun argument => ⟨argument, .argument⟩)
      else do
        let kind ← spec.classify text
        let words ← spec.classifyAll rest
        return ⟨text, kind⟩ :: words

end CommandSpec

namespace OptionSpec

variable {σ : Type}

/-- All names of an option, as complaints show them. -/
def label (option : OptionSpec σ) : String :=
  "/".intercalate option.names

/-- Whether an option wants an argument. -/
def wantsArgument (option : OptionSpec σ) : Bool :=
  match option.action with
  | .help => false
  | .flag _ => false
  | _ => true

/-- What an argument amounts to: a text, unless it is dropped. -/
def argumentOf (text : String) : Argument String :=
  if text = "--" then .dropped else .of text

/-- The value that a text stands for; a dropped argument stays dropped. -/
def valueOf
    {α : Type}
    (read : String → Option α)
    (complaint : String → UsageError)
    (text : String) :
    Except Refusal (Argument α) :=
  match argumentOf text with
  | .dropped => .ok .dropped
  | .of text =>
      match read text with
      | some value => .ok (.of value)
      | none => .error (.usage (complaint text))

/-- Does what an option without an argument stands for. -/
def switch (option : OptionSpec σ) (choices : σ) : Except Refusal σ :=
  match option.action with
  | .help => .error .help
  | .flag set => .ok (set choices)
  | _ => .error (.usage (.argumentMissing option.label))

/-- Gives an option its argument. -/
def give (option : OptionSpec σ) (text : String) (choices : σ) : Except Refusal σ :=
  match option.action with
  | .text set => .ok (set (argumentOf text) choices)
  | .integer set => do
      return set (← valueOf Text.integer? (.notAnInteger option.label) text) choices
  | .number set => do
      return set (← valueOf Binary64.ofText? (.notANumber option.label) text) choices
  | _ => .error (.usage (.argumentIgnored option.label text))

end OptionSpec

/-- The options in one word: those without an argument, and the one that wants one. -/
structure Cluster (σ : Type) where
  switches : List (OptionSpec σ)
  /-- The option that wants an argument, with the one in the word. -/
  wanting : Option (OptionSpec σ × Option String)

namespace Cluster

variable {σ : Type}

/-- An option that carries nothing. -/
def single (option : OptionSpec σ) : Cluster σ :=
  if option.wantsArgument then ⟨[], some (option, none)⟩ else ⟨[option], none⟩

/-- An option without an argument, in front of others. -/
def add (option : OptionSpec σ) (cluster : Cluster σ) : Cluster σ :=
  { cluster with switches := option :: cluster.switches }

/-- An option behind whose letter a text stands. -/
def ofTail (spec : CommandSpec σ) : OptionSpec σ → List Char → Except UsageError (Cluster σ)
  | option, [] =>
      if option.wantsArgument then .ok ⟨[], some (option, some "")⟩
      else .error (.argumentIgnored option.label "")
  | option, letter :: rest =>
      if option.wantsArgument then
        .ok ⟨[], some (option, some (String.ofList (letter :: rest)))⟩
      else
        match spec.find? (String.ofList ['-', letter]) with
        | none => .error (.argumentIgnored option.label (String.ofList (letter :: rest)))
        | some next =>
            if rest.isEmpty then .ok ((single next).add option)
            else (ofTail spec next rest).map (add option)

/-- The options of a word that begins with one. -/
def ofCarried (spec : CommandSpec σ) (option : OptionSpec σ) :
    Carried → Except UsageError (Cluster σ)
  | .nothing => .ok (single option)
  | .tail text => ofTail spec option text
  | .argument text =>
      if option.wantsArgument then .ok ⟨[], some (option, some text)⟩
      else .error (.argumentIgnored option.label text)

/-- Does what the options without an argument stand for, one after the other. -/
def switchAll (cluster : Cluster σ) (choices : σ) : Except Refusal σ :=
  cluster.switches.foldlM (fun choices option => option.switch choices) choices

end Cluster

/-- What has been understood so far. -/
structure Reading (σ : Type) where
  choices : σ
  /-- Whether the word before was the argument of the command. -/
  justTaken : Bool := false
  /-- The argument of the command that is still to come. -/
  pending : Option (Positional σ)
  /-- The words that nobody wants. -/
  extras : List String := []

namespace Reading

variable {σ : Type}

/-- Goes on with other choices. -/
def choose (reading : Reading σ) (choices : σ) : Reading σ :=
  { reading with choices, justTaken := false }

/-- Sets a word aside. -/
def setAside (reading : Reading σ) (word : String) : Reading σ :=
  { reading with extras := reading.extras ++ [word], justTaken := false }

/--
Reads the words of a command line. The argument of the command is the first word
that no option takes; two dashes in front of it or behind it belong to it.
-/
def read (spec : CommandSpec σ) : List (Word σ) → Reading σ → Except Refusal (Reading σ)
  | [], reading => .ok reading
  | word :: rest, reading =>
      match word.kind, reading.pending with
      | .unknown, _ => read spec rest (reading.setAside word.text)
      | .option option carried, _ => do
          let cluster ← (Cluster.ofCarried spec option carried).mapError Refusal.usage
          match cluster.wanting with
          | none => do
              let choices ← cluster.switchAll reading.choices
              read spec rest (reading.choose choices)
          | some (option, some text) => do
              let choices ← cluster.switchAll reading.choices
              let choices ← option.give text choices
              read spec rest (reading.choose choices)
          | some (option, none) =>
              match rest with
              | ⟨text, .argument⟩ :: rest => do
                  let choices ← cluster.switchAll reading.choices
                  let choices ← option.give text choices
                  read spec rest (reading.choose choices)
              | _ => throw (.usage (.argumentMissing option.label))
      | .argument, none => read spec rest (reading.setAside word.text)
      | .argument, some (.single _ set) =>
          read spec rest
            { reading with
              choices := set word.text reading.choices
              pending := none
              justTaken := true }
      | .argument, some (.mode name choices set) =>
          if choices.contains word.text then
            .ok { reading with
              choices := set word.text (rest.map Word.text) reading.choices
              pending := none }
          else
            .error (.usage (.notAChoice name word.text choices))
      | .dashes, pending =>
          if reading.justTaken then
            read spec rest { reading with justTaken := false }
          else if rest.isEmpty then
            read spec rest (reading.setAside word.text)
          else
            match pending with
            | none => read spec rest (reading.setAside word.text)
            | some (.single _ _) => read spec rest reading
            | some (.mode name choices _) =>
                .error (.usage (.notAChoice name word.text choices))

end Reading

namespace Positional

variable {σ : Type}

/-- The name of an argument of the command. -/
def name : Positional σ → String
  | single name _ => name
  | mode name _ _ => name

end Positional

namespace CommandSpec

variable {σ : Type}

/--
Reads a command line, beginning with given choices, and also tells which words
nobody wants.
-/
def readKnown (spec : CommandSpec σ) (words : List String) (choices : σ) :
    Except Refusal (σ × List String) := do
  let words ←
    match spec.classifyAll words with
    | .ok words => pure words
    | .error error => throw (.usage error)
  let reading ← Reading.read spec words { choices, pending := spec.positional }
  match reading.pending with
  | some positional => throw (.usage (.required positional.name))
  | none => return (reading.choices, reading.extras)

/-- Refuses words that nobody wants. -/
def refuseExtras (extras : List String) : Except Refusal Unit :=
  if extras.isEmpty then .ok () else .error (.usage (.unrecognized extras))

/-- Reads a command line, all of whose words have to be understood. -/
def read (spec : CommandSpec σ) (words : List String) (choices : σ) : Except Refusal σ := do
  let (choices, extras) ← spec.readKnown words choices
  refuseExtras extras
  return choices

end CommandSpec

/-- The option that asks for help, under its two names. -/
def helpOption (σ : Type) : OptionSpec σ :=
  ⟨["-h", "--help"], .help⟩

end GrammarCorpus
