import GrammarCorpus.Console
import GrammarCorpus.Corpus.Survey

namespace GrammarCorpus

/-!
# Report on a survey

The report names the numbers of grammars and of unreadable entries, shows the first
of those, and then has one line or one table row for each class.
-/

namespace Survey

/-- The number of unreadable entries that are shown. -/
def shownUnreadable : Nat :=
  10

/-- The lines about grammars and unreadable entries. -/
def overview (survey : Survey) : String :=
  let numbers :=
    s!"Grammars: {survey.grammars.length} | unique: {survey.unique} | " ++
      s!"duplicates: {survey.duplicates}\n"
  if survey.unreadable.isEmpty then
    numbers
  else
    numbers ++ s!"Unreadable files: {survey.unreadable.length}\n" ++
      String.join ((survey.unreadable.take shownUnreadable).map fun path =>
        "  " ++ path.text ++ "\n")

/-- One line about a class. -/
def classLine (survey : Survey) (corpusClass : CorpusClass) : String :=
  let sizes := (survey.bySize corpusClass).map fun (size, count) => s!"{size}: {count}"
  let (rules, alternatives, symbols) := survey.means corpusClass
  s!"{corpusClass.text}: {(survey.members corpusClass).length} " ++
    "\x7b" ++ ", ".intercalate sizes ++ "\x7d" ++
    s!" rules={rules} alts={alternatives} syms={symbols}\n"

/-- The table row of a class. -/
def classRow (survey : Survey) (corpusClass : CorpusClass) : List String :=
  let sizes := (survey.bySize corpusClass).map fun (size, count) => s!"{size}:{count}"
  let (rules, alternatives, symbols) := survey.means corpusClass
  [corpusClass.text, toString (survey.members corpusClass).length, ", ".intercalate sizes,
    rules, alternatives, symbols]

/-- The table of all classes. -/
def table (survey : Survey) : Table where
  title := "Corpus by class"
  columns := [⟨"Class", false⟩, ⟨"Total", true⟩, ⟨"By size", false⟩, ⟨"Rules", true⟩,
    ⟨"Alts", true⟩, ⟨"Syms", true⟩]
  rows := CorpusClass.all.map survey.classRow

/-- The report on a survey, in lines or with a table. -/
def report (console : Console) (survey : Survey) (plain : Bool) : Report :=
  if plain then
    .ofText (survey.overview ++ String.join (CorpusClass.all.map survey.classLine))
  else
    .withTable console survey.overview survey.table

end Survey

end GrammarCorpus
