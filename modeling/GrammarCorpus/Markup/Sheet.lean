import GrammarCorpus.Binary64.Basic
import GrammarCorpus.Console
import GrammarCorpus.Markup.Basic

namespace GrammarCorpus

/-!
# Sheets

A sheet is a table whose texts have been read: it is known what is seen of them, and in
which styles. It is drawn with rounded corners and a rule below its header; its title
stands above it, centred. A column is as wide as its widest line. If the sheet would be
wider than the page, its widest columns are narrowed until it fits, and the texts in them
are broken into lines; a word that does not fit is shortened.

All widths are counted in cells of the page.
-/

namespace Markup

/-- A titled table of passages; every row has one for each column. -/
structure Sheet where
  title : String
  columns : List Column
  rows : List (List Passage)
deriving DecidableEq, Repr

namespace Sheet

/-- The number of cells in a line of the page. -/
def pageWidth : Nat :=
  80

/-- So many blanks. -/
def blanks (count : Nat) : String :=
  String.ofList (List.replicate count ' ')

/-- Whether a character ends a line of a text whose width is measured. -/
def endsLine (character : Char) : Bool :=
  let point := character.toNat
  (0x0a ≤ point && point ≤ 0x0d) || (0x1c ≤ point && point ≤ 0x1e) || point = 0x85 ||
    point = 0x2028 || point = 0x2029

/--
The width of the widest line of a text; the width of the line so far is given. A tab
counts for nothing here.
-/
def widestFrom (current : Nat) : List Char → Nat
  | [] => current
  | character :: rest =>
      if endsLine character then max current (widestFrom 0 rest)
      else widestFrom (current + Text.cellWidth character) rest

/-- The texts of one column, the header first. -/
def cells (sheet : Sheet) (position : Nat) : List String :=
  ((sheet.columns[position]?).map Column.header).toList ++
    sheet.rows.filterMap fun row => (row[position]?).map Passage.text

/-- What the borders add to the columns. -/
def frameWidth (sheet : Sheet) : Nat :=
  sheet.columns.length + 1

/-- What is left of the page for the columns. -/
def innerWidth (sheet : Sheet) : Nat :=
  pageWidth - sheet.frameWidth

/-- The blanks at both sides of a text. -/
def padding : Nat :=
  2

/--
The widths that the texts of the columns ask for, together with the blanks beside them.
No column asks for more than there is.
-/
def naturalWidths (sheet : Sheet) : List Nat :=
  (List.range sheet.columns.length).map fun position =>
    ((sheet.cells position).map fun text =>
      min sheet.innerWidth (widestFrom 0 text.toList + padding)).foldl max 0

/--
Takes a share from each of the widest columns, but no more than the limit. So much is
to be taken from so many columns; each share is rounded.
-/
def takeShares (widest limit : Nat) : Nat → Nat → List Nat → List Nat
  | _, _, [] => []
  | excess, count, width :: widths =>
      if width = widest then
        let share := min limit (Binary64.roundDiv excess count)
        (width - share) :: takeShares widest limit (excess - share) (count - 1) widths
      else
        width :: takeShares widest limit excess count widths

/--
Narrows the widest columns down to the next narrower ones, again and again, until the
columns fit. Each time at least one cell is gained, so as many times are enough as
there are cells too many.
-/
def narrow (available : Nat) : Nat → List Nat → List Nat
  | 0, widths => widths
  | times + 1, widths =>
      let excess := total widths - available
      if excess = 0 then
        widths
      else
        let widest := widths.foldl max 0
        let next := (widths.filter (· ≠ widest)).foldl max 0
        narrow available times
          (takeShares widest (min excess (widest - next)) excess (widths.count widest) widths)

/-- The widths of the columns. -/
def widths (sheet : Sheet) : List Nat :=
  let natural := sheet.naturalWidths
  narrow sheet.innerWidth (total natural - sheet.innerWidth) natural

/-- The width of the whole sheet. -/
def totalWidth (sheet : Sheet) : Nat :=
  total sheet.widths + sheet.frameWidth

/-- The lines of a passage in a column, each as wide as the column without its blanks. -/
def filledLines (width : Nat) (flushRight : Bool) (passage : Passage) :
    List (List Char) :=
  (passage.lines width flushRight).map fun line =>
    let line := Glyph.characters line
    let filling := List.replicate (width - Text.cells line) ' '
    if flushRight then filling ++ line else line ++ filling

/-- A horizontal rule with given corners and crossings. -/
def rule (widths : List Nat) (left middle right : String) : String :=
  left ++ middle.intercalate (widths.map fun width =>
    String.ofList (List.replicate width '─')) ++ right

/-- The lines of one row: as many as its longest text has in its column. -/
def rowLines (sheet : Sheet) (row : List Passage) : List String :=
  let columns := (sheet.widths.zip sheet.columns).zip row
  let broken := columns.map fun ((width, column), passage) =>
    (width - padding, filledLines (width - padding) column.flushRight passage)
  let height := (broken.map fun (_, lines) => lines.length).foldl max 1
  (List.range height).map fun index =>
    let parts := broken.map fun (width, lines) =>
      " " ++ String.ofList (lines.getD index (List.replicate width ' ')) ++ " "
    "│" ++ "│".intercalate parts ++ "│"

/-- The lines of the title, each centred; the smaller half of the space is left. -/
def titleLines (sheet : Sheet) : List String :=
  let width := sheet.totalWidth
  (Text.wrap width sheet.title.toList).map fun line =>
    let line := Text.shorten width (Text.trimRight line)
    let left := (width - Text.cells line) / 2
    blanks left ++ String.ofList line ++ blanks (width - Text.cells line - left)

/-- All lines of the sheet. -/
def lines (sheet : Sheet) : List String :=
  let widths := sheet.widths
  sheet.titleLines ++
    [rule widths "╭" "┬" "╮"] ++
    sheet.rowLines (sheet.columns.map fun column => .plain column.header) ++
    [rule widths "├" "┼" "┤"] ++
    sheet.rows.flatMap sheet.rowLines ++
    [rule widths "╰" "┴" "╯"]

/-- The texts of all styles that are in use in the rows. -/
def styles (sheet : Sheet) : List String :=
  sheet.rows.flatMap fun row =>
    ((sheet.widths.zip sheet.columns).zip row).flatMap fun ((width, column), passage) =>
      passage.styles (width - padding) column.flushRight

/-- The table as it is printed. -/
def text (sheet : Sheet) : String :=
  String.join (sheet.lines.map (· ++ "\n"))

end Sheet

end Markup

end GrammarCorpus
