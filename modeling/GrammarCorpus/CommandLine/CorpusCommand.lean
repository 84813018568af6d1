import GrammarCorpus.CommandLine.Ending
import GrammarCorpus.Corpus.Report
import GrammarCorpus.Corpus.Run
import GrammarCorpus.Sample

namespace GrammarCorpus

/-!
# The command for corpora

The command makes a corpus run over a range of sizes. Ranges, numbers of trials and
numbers of workers that make no sense are refused before anything is done. A failing
run ends with a status that tells whether it failed or was interrupted.
-/

/-- What can be chosen for a corpus run. -/
structure CorpusChoices where
  output : String := ""
  fromSize : Argument Int := .of 10
  /-- The first size behind the range. -/
  toSize : Argument Int := .of 12
  trials : Argument Int := .of 100
  workers : Argument Int
  seed : Argument Int := .of 42
  bison : Argument String := .of "bison"
  hyacc : Argument String := .of "hyacc"
  nimbleparse : Argument String := .of "nimbleparse"
  limit : Argument Seconds := .of defaultLimit
  /-- The directory for scratch directories, if one was chosen. -/
  scratch : Option (Argument String) := none
  plain : Bool := false
deriving DecidableEq, Repr

/-- The numbers of a corpus run that make sense together. -/
structure CorpusRange where
  fromSize : Int
  toSize : Int
  trials : Int
  workers : Int
deriving DecidableEq, Repr

namespace CorpusChoices

/-- The greatest number of workers that is taken without being asked for. -/
def workerLimit : Nat :=
  8

/-- The choices on a machine with so many processors, before any word is read. -/
def onProcessors (processors : Nat) : CorpusChoices :=
  { workers := .of (min workerLimit processors) }

/-- The options for a corpus run. -/
def spec : CommandSpec CorpusChoices where
  options := [
    helpOption _,
    ⟨["--from-size"], .integer fun fromSize choices => { choices with fromSize }⟩,
    ⟨["--to-size"], .integer fun toSize choices => { choices with toSize }⟩,
    ⟨["-n", "--trials"], .integer fun trials choices => { choices with trials }⟩,
    ⟨["--workers"], .integer fun workers choices => { choices with workers }⟩,
    ⟨["--seed"], .integer fun seed choices => { choices with seed }⟩,
    ⟨["--bison"], .text fun bison choices => { choices with bison }⟩,
    ⟨["--hyacc"], .text fun hyacc choices => { choices with hyacc }⟩,
    ⟨["--nimbleparse"], .text fun nimbleparse choices => { choices with nimbleparse }⟩,
    ⟨["--hyacc-timeout"], .number fun limit choices =>
      { choices with limit := limit.map .real }⟩,
    ⟨["--scratch"], .text fun scratch choices => { choices with scratch := some scratch }⟩,
    ⟨["--no-ansi"], .flag fun choices => { choices with plain := true }⟩]
  positional := some (.single "out" fun output choices => { choices with output })

/--
The numbers of a run, unless they do not go together. They are looked at one after the
other, and each is needed only if those before it are right.
-/
def range (choices : CorpusChoices) : Except Refusal CorpusRange := do
  let needed (argument : Argument Int) (operator : String) (onLeft : Bool) :
      Except Refusal Int :=
    (argument.needFor (.comparison operator onLeft)).mapError .argument
  let refuse (condition : Bool) (complaint : String) : Except Refusal Unit :=
    if condition then .error (.usage (.conflict complaint)) else .ok ()
  let outOfOrder := "need 2 <= --from-size < --to-size"
  let tooFew := "need --trials >= 0 and --workers >= 1"
  let largest : Int := Config.standard.maxSize
  let fromSize ← needed choices.fromSize "<" true
  refuse (fromSize < 2) outOfOrder
  let toSize ← needed choices.toSize ">=" false
  refuse (toSize ≤ fromSize) outOfOrder
  refuse (largest < toSize - 1) (s!"--to-size must be at most {largest + 1}; " ++
    s!"the alphabets only cover {largest} rules")
  let trials ← needed choices.trials "<" true
  refuse (trials < 0) tooFew
  let workers ← needed choices.workers "<" true
  refuse (workers < 1) tooFew
  return { fromSize, toSize, trials, workers }

/-- The name of the program. -/
def program : String :=
  "parallel_classify.py"

/-- Reads a command line on a machine with so many processors. -/
def read (processors : Nat) (words : List String) :
    Except Refused (CorpusChoices × CorpusRange) :=
  refusedBy program do
    let choices ← spec.read words (onProcessors processors)
    return (choices, ← choices.range)

/-- The configuration that the choices amount to; a seed or a directory that is dropped is looked
at later. -/
def config (choices : CorpusChoices) : Config :=
  { Config.standard with
    seed := some (choices.seed.getD Config.defaultSeed)
    bisonCommand := choices.bison
    hyaccCommand := choices.hyacc
    grmtoolsCommand := choices.nimbleparse
    hyaccLimit := choices.limit
    scratchRoot := choices.scratch.map (·.getD "") }

/-- What is announced before a run. -/
def announcement (choices : CorpusChoices) (range : CorpusRange) : String :=
  Sample.ruler ++ "\nRandom Grammar LR Corpus Generator\n" ++
    s!"Sizes: {range.fromSize}..{range.toSize - 1} | Trials: {range.trials} | " ++
    s!"Workers: {range.workers}\nOutput: {choices.output}\n" ++ Sample.ruler ++ "\n"

/-- Makes a trial, which needs a seed. -/
def attempt (choices : CorpusChoices) (size : Int) : Attempt :=
  match choices.seed with
  | .of _ => Trial.run choices.config size
  | .dropped => fun _ _ => throw (.argument .trialSeed)

/-- Makes the trials of one size below the chosen scratch directory, which has to be one. -/
def batch (choices : CorpusChoices) (range : CorpusRange) (size : Int) : Job Partition :=
  match choices.scratch with
  | some .dropped => throw (.argument .path)
  | _ =>
      Batch.runWith (choices.attempt size) choices.config.scratchRoot size range.trials
        (Path.ofText choices.output) range.workers

/-- Announces the run and makes it. -/
def generate (choices : CorpusChoices) (range : CorpusRange) : Job (List Partition) := do
  ExceptT.lift (Work.say (choices.announcement range))
  Corpus.batches (choices.batch range) (stride range.fromSize range.toSize 1) []

/-- How the command ends when the run fails, and what it says then. -/
def endingOf : Failure → String × Ending Failure
  | .interrupted => ("\n[Interrupted]\n", .exit 130)
  | .batch path cause =>
      ("\n[FATAL: " ++ (Failure.batch path cause).message ++ "]\n", .exit 1)
  | .unavailable command cause =>
      ("\n[FATAL: " ++ (Failure.unavailable command cause).message ++ "]\n", .exit 1)
  | failure => ("", .failed failure)

/-- Says that a run is complete after so many seconds, and reports on it. -/
def conclude (console : Console) (choices : CorpusChoices) (seconds : String) :
    Except Failure (List Partition) → Work (String × Ending Failure)
  | .ok partitions => do
      Work.say ("\n[Complete in " ++ seconds ++ "s]\n")
      let report := Partition.report console partitions choices.plain
      return (report.text, .ofResult .console report.result)
  | .error failure => do
      let (message, ending) := endingOf failure
      Work.say message
      return ("", ending)

/--
Carries out a command line. The time that a run takes is not the run's to know, so
its text is given.
-/
def carryOut
    (console : Console)
    (processors : Nat)
    (seconds : String)
    (words : List String) :
    Work (String × Ending Failure) := do
  match read processors words with
  | .error refused => do
      let transcript : Transcript Failure := refused.transcript .argument
      Work.say transcript.err
      return (transcript.out, transcript.ending)
  | .ok (choices, range) => do
      let result ← (generate choices range).run
      conclude console choices seconds result

end CorpusChoices

end GrammarCorpus
