import GrammarCorpus.Markup.Sheet

namespace GrammarCorpus

/-!
# The page

The page is a console of eighty cells in each line, without colours. It reads all texts of
a table, draws the table, and then looks at the styles in which its texts are shown.
-/

namespace Markup

/-- The kind of failure that a mistake leads to. -/
def kindOf : MarkupError → String
  | .componentMissing => "ValueError"
  | _ => "MarkupError"

/-- The sheet of a table, if all its texts and their styles can be read. -/
def sheetOf (table : Table) : Except MarkupError Sheet := do
  let sheet : Sheet :=
    { title := table.title
      columns := table.columns
      rows := ← table.rows.mapM fun row => row.mapM read }
  checkStyles sheet.styles
  return sheet

end Markup

/-- The console that prints on the page. -/
def Console.page : Console where
  print table :=
    match Markup.sheetOf table with
    | .ok sheet => .ok sheet.text
    | .error error => .error { kind := Markup.kindOf error, message := error.message }

end GrammarCorpus
