import GrammarCorpus.CommandLine.Ending
import GrammarCorpus.Corpus.SurveyReport
import GrammarCorpus.Corpus.Trial

namespace GrammarCorpus

/-!
# The command for surveys

The command surveys the corpus in a directory. It changes nothing.
-/

/-- What can be chosen for a survey. -/
structure SurveyChoices where
  corpus : String := ""
  plain : Bool := false
deriving DecidableEq, Repr

namespace SurveyChoices

/-- The name of the program. -/
def program : String :=
  "analyze_corpus.py"

/-- The options for a survey. -/
def spec : CommandSpec SurveyChoices where
  options := [
    helpOption _,
    ⟨["--no-ansi"], .flag fun choices => { choices with plain := true }⟩]
  positional := some (.single "corpus" fun corpus choices => { choices with corpus })

/-- Surveys the chosen directory, if it is one. -/
def survey (console : Console) (choices : SurveyChoices) : FileWork (Transcript Failure) := do
  let base := Path.ofText choices.corpus
  if ← FileWork.isDirectory base then
    let found ← Survey.ofDirectory base
    let report := found.report console choices.plain
    return ⟨report.text, "", .ofResult .console report.result⟩
  else
    return ⟨"", "[ERROR: " ++ choices.corpus ++ " is not a directory]\n", .exit 1⟩

/-- Carries out a command line. -/
def carryOut (console : Console) (words : List String) : Work (Transcript Failure) := do
  match refusedBy program (spec.read words {}) with
  | .error refused => return refused.transcript .argument
  | .ok choices =>
      match ← (choices.survey console).run with
      | .ok transcript => return transcript
      | .error failure => return ⟨"", "", .failed (.file failure)⟩

end SurveyChoices

end GrammarCorpus
