import GrammarCorpus.CommandLine.CorpusCommand
import GrammarCorpus.CommandLine.GrammarCommand
import GrammarCorpus.CommandLine.SurveyCommand
import GrammarCorpus.Markup.Page

namespace GrammarCorpus

/-!
# The program

The first word selects one of three commands, and the words behind it are read by that
command. Random grammars are drawn and printed as they are asked for. Corpus runs and
surveys work in a workspace that is held in memory: it starts with an empty directory
for temporary files, and no engine can be started on its machine.
-/

namespace Program

/-- A machine without engines, on which no call fails and workers take turns. -/
def bareMachine : Machine where
  engines := fun _ _ => { outcome := .unavailable .notFound }
  directory := []
  temporary := "/tmp"
  names := fun number => Text.hexadecimal 16 number
  faults := fun _ => none
  turns := fun _ => 0

/-- A workspace with an empty directory for temporary files. -/
def freshWorkspace : Workspace where
  tree := FileTree.empty.insert ["tmp"] .directory

/-- A number of milliseconds in seconds, with one place. -/
def secondsText (milliseconds : Nat) : String :=
  let tenths := (milliseconds + 50) / 100
  s!"{tenths / 10}.{tenths % 10}"

/-- Prints what a command has to say, and returns its exit status. -/
def conclude {ε : Type} (message : ε → String) (transcript : Transcript ε) : IO UInt32 := do
  IO.print transcript.out
  IO.eprint transcript.err
  match transcript.ending with
  | .finished => return 0
  | .exit status => return status.toUInt32
  | .failed failure => do
      IO.eprintln (message failure)
      return 1

/-- Makes a corpus run, and measures the time it takes. -/
def runCorpus (words : List String) : IO UInt32 := do
  match CorpusChoices.read 1 words with
  | .error refused => conclude Failure.message (refused.transcript .argument)
  | .ok (choices, range) => do
      let start ← IO.monoMsNow
      let (result, workspace) := ((choices.generate range).run bareMachine).run freshWorkspace
      IO.eprint workspace.messages
      let stop ← IO.monoMsNow
      let ending := choices.conclude .page (secondsText (stop - start)) result
      let ((out, ending), after) :=
        (ending.run bareMachine).run { workspace with messages := "" }
      conclude Failure.message ⟨out, after.messages, ending⟩

/-- Carries out the command that the first word selects. -/
def run (words : List String) : IO UInt32 := do
  match words with
  | "corpus" :: words => runCorpus words
  | "survey" :: words => do
      let work := SurveyChoices.carryOut .page words
      let (transcript, _) := (work.run bareMachine).run freshWorkspace
      conclude Failure.message transcript
  | "grammars" :: words =>
      conclude GrammarFailure.message (GrammarCommand.carryOut .page words)
  | _ => do
      IO.eprintln "usage: (grammars | corpus | survey) [options]"
      return 2

end Program

end GrammarCorpus

/-- Runs the program. -/
def main (words : List String) : IO UInt32 :=
  GrammarCorpus.Program.run words
