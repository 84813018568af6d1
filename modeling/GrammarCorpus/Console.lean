namespace GrammarCorpus

/-!
# Consoles

A report may end with a table, which is printed by a console. How a table looks is the
console's own matter. The texts of a table may be marked up with tags in square brackets,
and a console that cannot make sense of them fails; all that is relied on is that a
console prints tables without brackets.
-/

/-- One column: what stands above it, and whether it is flush right. -/
structure Column where
  header : String
  flushRight : Bool := false
deriving DecidableEq, Repr

/-- A titled table; every row has one text for each column. -/
structure Table where
  title : String
  columns : List Column
  rows : List (List String)
deriving DecidableEq, Repr

/-- No text of a table has a bracket, so that none can be taken for a tag. -/
structure Table.IsUntagged (table : Table) : Prop where
  title : '[' ∉ table.title.toList
  headers : ∀ column ∈ table.columns, '[' ∉ column.header.toList
  cells : ∀ row ∈ table.rows, ∀ text ∈ row, '[' ∉ text.toList

/-- Why a console does not print a table: the kind of its failure and the wording. -/
structure ConsoleError where
  kind : String
  message : String
deriving DecidableEq, Repr

/-- What prints tables. -/
structure Console where
  print : Table → Except ConsoleError String

/-- Tables without brackets are printed. -/
def Console.PrintsUntagged (console : Console) : Prop :=
  ∀ table : Table, table.IsUntagged → ∃ text, console.print table = .ok text

/-- What a report has printed, and what has kept it from more. -/
structure Report where
  text : String
  result : Except ConsoleError Unit

namespace Report

/-- A report in lines. -/
def ofText (text : String) : Report :=
  ⟨text, .ok ()⟩

/-- A report that ends with a table behind a text. -/
def withTable (console : Console) (text : String) (table : Table) : Report :=
  match console.print table with
  | .ok printed => ⟨text ++ printed, .ok ()⟩
  | .error error => ⟨text, .error error⟩

end Report

end GrammarCorpus
