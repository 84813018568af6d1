import GrammarCorpus.Argument
import GrammarCorpus.Console
import GrammarCorpus.Corpus.Partition
import GrammarCorpus.Files.Machine
import GrammarCorpus.Generator
import GrammarCorpus.Random.Mersenne

namespace GrammarCorpus

/-!
# Trials

A trial draws one grammar on a stream of its own and asks the three engines about
it. The stream depends on the seed of the run, the size and the number of the trial,
and on nothing else, so a trial has the same outcome in every run.

The files of a trial lie in a directory that is named by the number of the trial.
-/

/-- Why a run ends early. -/
inductive Failure where
  /-- No grammar can be drawn. -/
  | generation (error : GenerationError)
  /-- A grammar cannot be rendered. -/
  | render (error : RenderError)
  /-- An operation on files fails. -/
  | file (failure : FileFailure)
  /-- A call about the scratch or the output directory fails. -/
  | batch (path : String) (cause : FileError)
  /-- An engine cannot be started. -/
  | unavailable (command : Argument String) (cause : SystemError)
  /-- An engine without a limit is said to have run into one. -/
  | timedOut (command : Argument String) (words : List String)
  /-- An engine is not called in a way that can be carried out. -/
  | launch (fault : LaunchFault)
  /-- An argument of the run is missing where it is needed. -/
  | argument (misuse : Misuse)
  /-- A report cannot be printed. -/
  | console (error : ConsoleError)
  /-- The user interrupts the run. -/
  | interrupted
deriving DecidableEq, Repr

namespace Failure

/-- The wording of a failure. -/
def message : Failure → String
  | generation error => error.message
  | render error => error.message
  | file failure => failure.message
  | batch path cause => path ++ ": " ++ cause.message
  | unavailable command cause =>
      "cannot execute " ++ command.text ++ ": " ++ cause.reportOf command.quoted
  | timedOut command words =>
      "Command '[" ++ ", ".intercalate (command.quoted :: words.map Text.quoted) ++
        "]' timed out after None seconds"
  | launch fault => fault.message
  | argument misuse => misuse.message
  | console error => error.message
  | interrupted => ""

/-- A failure on files, which is reported for a directory of the run if a call fails. -/
def blaming (path : String) : FileFailure → Failure
  | .failed error => batch path error
  | .nullInPath => file .nullInPath

/-- Whether the user has interrupted the run. -/
def isInterrupt : Failure → Bool
  | interrupted => true
  | _ => false

end Failure

/-- Work that may fail in any way a run can fail. -/
abbrev Job :=
  ExceptT Failure Work

namespace Job

/-- Work on files whose failures are kept as they are. -/
def ofFiles {α : Type} (work : FileWork α) : Job α :=
  ExceptT.adapt Failure.file work

/-- Work on files whose failures are reported for a directory of the run. -/
def ofBatch {α : Type} (path : Path) (work : FileWork α) : Job α :=
  ExceptT.adapt (Failure.blaming path.text) work

/-- Turns failures of single files into failures for a directory of the run. -/
def blaming {α : Type} (path : Path) (job : Job α) : Job α :=
  tryCatch job fun failure =>
    match failure with
    | .file failure => throw (Failure.blaming path.text failure)
    | other => throw other

end Job

namespace Oracle

/-- Judges what has become of an engine that was started. -/
def judge (oracle : Oracle) (launch : Launch) (outcome : Outcome) : Except Failure Verdict :=
  match oracle.dialect, outcome with
  | none, _ => .error (.render .noDialect)
  | some _, .unavailable cause => .error (.unavailable oracle.command cause)
  | some _, .interrupted => .error .interrupted
  | some (.hyacc limit), .timedOut captured =>
      .ok (Hyacc.verdictAtLimit limit (Text.decodeReplacing captured))
  | some _, .timedOut _ => .error (.timedOut launch.command launch.words)
  | some dialect, .finished code out err =>
      let decode (bytes : ByteArray) : String :=
        String.ofList (Text.unifyLineEnds (Text.decodeReplacing bytes))
      .ok (dialect.verdict { code, out := decode out, err := decode err })

/-- Writes the file of a grammar and those that go with it. -/
def writeFiles (oracle : Oracle) (grammar : Grammar) (path : Path) : Job Unit :=
  match oracle.render grammar with
  | .error error => throw (.render error)
  | .ok text =>
      Job.ofFiles (((path, text) :: oracle.companions grammar path).forM fun item =>
        FileWork.write item.1 item.2)

/-- Asks the engine of a role about a grammar. -/
def classify
    (oracle : Oracle)
    (role : Role)
    (grammar : Grammar)
    (directory : Path)
    (stem : String) :
    Job Verdict := do
  let path := oracle.grammarPath directory stem
  oracle.writeFiles grammar path
  let launch := oracle.launch path
  match ← ExceptT.lift (Work.start role launch path) with
  | .error fault => throw (.launch fault)
  | .ok outcome =>
      match oracle.judge launch outcome with
      | .ok verdict => return verdict
      | .error failure => throw failure

end Oracle

namespace Config

/-- The oracles of a configuration, whose commands were given in the working directory. -/
def oraclesOn (config : Config) (machine : Machine) : PerRole Oracle :=
  config.oracles { anchor := .root, parts := machine.directory.reverse }

/-- The seed of a trial's stream. -/
def trialSeed (config : Config) (size trial : Int) : Int :=
  config.seed.getD defaultSeed * 1000003 + size * 100003 + trial

/-- The grammar that a trial draws. -/
def trialGrammar (config : Config) (size trial : Int) :
    Except GenerationError (Option Grammar) :=
  let draw : Draw Mersenne (Option Grammar) := config.generate size
  (draw.run (Mersenne.ofSeed (config.trialSeed size trial))).1

end Config

namespace Trial

/-- Asks all engines about the grammar of a trial, in a directory that is made for it. -/
def classify
    (config : Config)
    (size trial : Int)
    (grammar : Grammar)
    (directory : Path) :
    Job Classified := do
  let oracles := config.oraclesOn (← read)
  let stem := toString trial
  Job.ofFiles (FileWork.makeDirectory directory)
  let verdicts ← PerRole.build fun role =>
    (oracles.get role).classify role grammar directory stem
  let path (role : Role) : String := ((oracles.get role).grammarPath directory stem).text
  return {
    trial := trial
    size := size
    text := (grammar.canonical?).getD ""
    paths := ⟨path .strict, path .relaxed, path .reference⟩
    verdicts := verdicts
  }

/-- Makes a trial in a scratch directory. There is no result if no grammar was drawn. -/
def run (config : Config) (size : Int) (scratch : Path) (trial : Int) :
    Job (Option Classified) := do
  match config.trialGrammar size trial with
  | .error error => throw (.generation error)
  | .ok none => return none
  | .ok (some grammar) =>
      let directory := scratch.child (toString trial)
      let classified ← Job.blaming directory
        (classify config size trial grammar directory)
      return some classified

end Trial

end GrammarCorpus
