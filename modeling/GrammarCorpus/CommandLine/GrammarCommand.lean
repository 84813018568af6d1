import GrammarCorpus.CommandLine.Ending
import GrammarCorpus.Validation

namespace GrammarCorpus

/-!
# The command for random grammars

The command draws grammars and either shows a sample of them or validates them. It
needs no files and no engines, so a command line and a console decide what is printed.
-/

/-- What can be chosen for a sample. -/
structure SampleChoices where
  size : Argument Int := .of 5
  count : Argument Int := .of 10
  shown : Argument Int := .of 3
  maxAlternatives : Argument Int := .of 3
  maxSymbols : Argument Int := .of 5
  seed : Argument Int := .of 1337
  plain : Bool := false
deriving DecidableEq, Repr

/-- What can be chosen for a validation. -/
structure ValidationChoices where
  count : Argument Int := .of 2000
  minSize : Argument Int := .of 2
  maxSize : Argument Int := .of 8
  seed : Argument Int := .of 42
deriving DecidableEq, Repr

/-- What the command is asked to do. -/
inductive GrammarCommand where
  | sample (choices : SampleChoices)
  | validate (choices : ValidationChoices)
deriving DecidableEq, Repr

/-- How the command fails when it does not know what to do about it. -/
inductive GrammarFailure where
  | sample (error : SampleError)
  | validation (error : ValidationError)
  /-- An argument is missing where it is needed. -/
  | argument (misuse : Misuse)
deriving DecidableEq, Repr

namespace GrammarFailure

/-- The wording of a failure. -/
def message : GrammarFailure → String
  | sample error => error.message
  | validation error => error.message
  | argument misuse => misuse.message

end GrammarFailure

/-- Why the command does not come to its end. -/
inductive Obstacle where
  /-- A complaint about choices that no grammar can satisfy. -/
  | complaint (text : String)
  | failure (failure : GrammarFailure)
deriving DecidableEq, Repr

namespace Argument

/-- The value of an argument that the command needs. -/
def needed {α : Type} (argument : Argument α) (misuse : Misuse) : Except Obstacle α :=
  (argument.needFor misuse).mapError fun misuse => .failure (.argument misuse)

end Argument

namespace SampleChoices

/-- The options for a sample. -/
def spec : CommandSpec SampleChoices where
  options := [
    helpOption _,
    ⟨["--size"], .integer fun size choices => { choices with size }⟩,
    ⟨["--n"], .integer fun count choices => { choices with count }⟩,
    ⟨["--show"], .integer fun shown choices => { choices with shown }⟩,
    ⟨["--max-alts"], .integer fun maxAlternatives choices =>
      { choices with maxAlternatives }⟩,
    ⟨["--max-syms"], .integer fun maxSymbols choices => { choices with maxSymbols }⟩,
    ⟨["--seed"], .integer fun seed choices => { choices with seed }⟩,
    ⟨["--no-ansi"], .flag fun choices => { choices with plain := true }⟩]
  positional := none

/-- Settings that a generator can work with. -/
def check (settings : Settings) : Except Obstacle Config :=
  settings.check.mapError fun error => .complaint error.message

/-- The configuration that the choices amount to. Bounds are compared one pair after another. -/
def config (choices : SampleChoices) : Except Obstacle Config := do
  let dropped : Misuse := .comparison "<=" false
  let maxAlternatives ← choices.maxAlternatives.needed dropped
  let alternatives : Settings := { maxAlternatives }
  let _ ← check alternatives
  let maxSymbols ← choices.maxSymbols.needed dropped
  let config ← check { alternatives with maxSymbols }
  return { config with seed := some (← choices.seed.needed .seed) }

/-- The number of grammars that are wanted, and their size; for none, no size is needed. -/
def countAndSize (choices : SampleChoices) : Except Obstacle (Int × Int) := do
  let count ← choices.count.needed (.comparison "<" false)
  if 0 < count then
    return (count, ← choices.size.needed (.comparison "<" true))
  else
    return (count, choices.size.getD 0)

/-- The number of grammars that are shown in full; without grammars, none is needed. -/
def shownOf (choices : SampleChoices) (sample : Sample) : Except Obstacle Int :=
  if sample.grammars.isEmpty then .ok (choices.shown.getD 0)
  else choices.shown.needed .position

/-- The report on the sample that was chosen. -/
def report (console : Console) (choices : SampleChoices) : Except Obstacle SampleReport := do
  let config ← choices.config
  let (count, size) ← choices.countAndSize
  match config.sample size count with
  | .error error => throw (.failure (.sample (.generation error)))
  | .ok sample => return sample.report console size (← choices.shownOf sample) choices.plain

end SampleChoices

namespace ValidationChoices

/-- The options for a validation. -/
def spec : CommandSpec ValidationChoices where
  options := [
    helpOption _,
    ⟨["--n"], .integer fun count choices => { choices with count }⟩,
    ⟨["--min-size"], .integer fun minSize choices => { choices with minSize }⟩,
    ⟨["--max-size"], .integer fun maxSize choices => { choices with maxSize }⟩,
    ⟨["--seed"], .integer fun seed choices => { choices with seed }⟩]
  positional := none

/-- The bounds for sizes. -/
def sizes (choices : ValidationChoices) : Except Obstacle (Int × Int) := do
  let complaint : Obstacle := .complaint "need 2 <= --min-size <= --max-size"
  let minSize ← choices.minSize.needed (.comparison "<" true)
  if minSize < 2 then
    throw complaint
  let maxSize ← choices.maxSize.needed (.comparison ">" false)
  if maxSize < minSize then
    throw complaint
  return (minSize, maxSize)

/-- The configuration and the number of draws that the choices amount to. -/
def configAndCount (choices : ValidationChoices) : Except Misuse (Config × Int) := do
  let seed ← choices.seed.needFor .seed
  let count ← choices.count.needFor .repetitions
  return ({ Config.standard with seed := some seed }, count)

end ValidationChoices

namespace GrammarCommand

/-- The name of the program. -/
def program : String :=
  "cfg_gen.py"

/-- The first word says what to do, and the words behind it are kept for that. -/
def spec : CommandSpec (Option (String × List String)) where
  options := [helpOption _]
  positional := some
    (.mode "mode" ["sample", "validate"] fun mode words _ => some (mode, words))

/--
Reads a command line. Options of one mode are not known to the other; words that
nobody wants are reported together.
-/
def read (words : List String) : Except Refused GrammarCommand := do
  let (chosen, extras) ← refusedBy program (spec.readKnown words none)
  let (mode, words) := chosen.getD ("", [])
  let inMode := program ++ " " ++ mode
  let (command, more) ←
    if mode = "sample" then do
      let (choices, more) ← refusedBy inMode (SampleChoices.spec.readKnown words {})
      pure (sample choices, more)
    else do
      let (choices, more) ← refusedBy inMode (ValidationChoices.spec.readKnown words {})
      pure (validate choices, more)
  refusedBy program (CommandSpec.refuseExtras (extras ++ more))
  return command

/-- How the command ends before an obstacle. -/
def stop : Obstacle → Transcript GrammarFailure
  | .complaint text => ⟨"", "[ERROR: " ++ text ++ "]\n", .exit 2⟩
  | .failure failure => ⟨"", "", .failed failure⟩

/-- Draws a sample and shows it. -/
def runSample (console : Console) (choices : SampleChoices) : Transcript GrammarFailure :=
  match choices.report console with
  | .error obstacle => stop obstacle
  | .ok report => ⟨report.text, "", .ofResult .sample report.result⟩

/--
Validates grammars; the exit status tells whether all checks were passed. Arguments that
are needed for the draws are missed under the heading only.
-/
def runValidation (choices : ValidationChoices) : Transcript GrammarFailure :=
  match choices.sizes, choices.configAndCount with
  | .error obstacle, _ => stop obstacle
  | .ok _, .error misuse => ⟨Validation.heading, "", .failed (.argument misuse)⟩
  | .ok (minSize, maxSize), .ok (config, count) =>
      let report := config.validation count minSize maxSize
      match report.result with
      | .ok passed => ⟨report.text, "", .exit (if passed then 0 else 1)⟩
      | .error error => ⟨report.text, "", .failed (.validation error)⟩

/-- Does what the command is asked to do. -/
def run (console : Console) : GrammarCommand → Transcript GrammarFailure
  | sample choices => runSample console choices
  | validate choices => runValidation choices

/-- Carries out a command line. -/
def carryOut (console : Console) (words : List String) : Transcript GrammarFailure :=
  match read words with
  | .error refused => refused.transcript .argument
  | .ok command => command.run console

end GrammarCommand

end GrammarCorpus
