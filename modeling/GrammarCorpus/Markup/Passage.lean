import GrammarCorpus.Text.Wrap

namespace GrammarCorpus

/-!
# Passages

A passage is a text in which some parts are to be shown in a style. When it is broken
into the lines of a column, each character keeps its styles, and a character that is put
in place of others takes over the styles of the place. A style of an empty part is
remembered by its position, and only as long as the passage stays in one piece.
-/

namespace Markup

/-- A character on the page, and the texts of the styles it is to be shown in. -/
structure Glyph where
  character : Char
  styles : List String := []
deriving DecidableEq, Repr

namespace Glyph

/-- The characters of a line. -/
def characters (line : List Glyph) : List Char :=
  line.map Glyph.character

/-- Puts characters in the places of the first glyphs; further glyphs are dropped. -/
def withCharacters (line : List Glyph) (shown : List Char) : List Glyph :=
  List.zipWith (fun glyph character => { glyph with character }) line shown

/-- The lines of a text; only the line feed ends a line. -/
def lines : List Glyph → List (List Glyph)
  | [] => [[]]
  | glyph :: rest =>
      if glyph.character = '\n' then
        [] :: lines rest
      else
        match lines rest with
        | [] => [[glyph]]
        | line :: further => (glyph :: line) :: further

/-- The distance of two tab stops. -/
def tabDistance : Nat :=
  8

/-- Puts blanks in place of tabs, up to the next tab stop; so many cells are in front. -/
def expandTabsFrom (position : Nat) : List Glyph → List Glyph
  | [] => []
  | glyph :: rest =>
      if glyph.character = '\t' then
        let count := tabDistance - position % tabDistance
        List.replicate count { glyph with character := ' ' } ++
          expandTabsFrom (position + count) rest
      else
        glyph :: expandTabsFrom (position + Text.cellWidth glyph.character) rest

/-- Puts blanks in place of tabs, up to the next tab stop. -/
def expandTabs (line : List Glyph) : List Glyph :=
  expandTabsFrom 0 line

/-- Cuts glyphs into parts of given lengths. -/
def portions : List Nat → List Glyph → List (List Glyph)
  | [], _ => []
  | length :: lengths, line => line.take length :: portions lengths (line.drop length)

/-- Breaks one line between words. -/
def wrap (width : Nat) (line : List Glyph) : List (List Glyph) :=
  portions ((Text.wrap width (characters line)).map List.length) line

end Glyph

/-- A text with styles for some of its parts. -/
structure Passage where
  glyphs : List Glyph
  /-- The styles of empty parts, and how many glyphs stand in front of each. -/
  points : List (Nat × String) := []
deriving DecidableEq, Repr

/-- A part of a text, from one position to another, and the text of its style. -/
structure Span where
  first : Nat
  last : Nat
  style : String
deriving DecidableEq, Repr

namespace Passage

/-- A text without styles. -/
def plain (text : String) : Passage where
  glyphs := text.toList.map fun character => { character }

/-- A text in which some parts have a style. -/
def ofSpans (characters : List Char) (spans : List Span) : Passage where
  glyphs := characters.zipIdx.map fun (character, position) =>
    { character
      styles := (spans.filter fun span => span.first ≤ position && position < span.last).map
        Span.style }
  points := (spans.filter fun span => span.first = span.last).map fun span =>
    (span.first, span.style)

/-- The text of a passage. -/
def text (passage : Passage) : String :=
  String.ofList (Glyph.characters passage.glyphs)

/--
The two steps in which a line is made to fit a column: blanks that are in excess are
dropped, all blanks if the column is flush right; then the line is cut short.
-/
def fittingSteps (width : Nat) (flushRight : Bool) (line : List Char) : List (List Char) :=
  let trimmed := Text.trimExcess width line
  let trimmed := if flushRight then Text.trimRight trimmed else trimmed
  [trimmed, Text.shorten width trimmed]

/-- A line made to fit a column. -/
def fit (width : Nat) (flushRight : Bool) (line : List Glyph) : List Glyph :=
  (fittingSteps width flushRight (Glyph.characters line)).foldl Glyph.withCharacters line

/-- The lines of a passage in a column, without the blanks that fill it. -/
def lines (width : Nat) (flushRight : Bool) (passage : Passage) : List (List Glyph) :=
  ((Glyph.lines passage.glyphs).flatMap fun line => Glyph.wrap width (Glyph.expandTabs line)).map
    (fit width flushRight)

/--
The styles of empty parts that are left in a column. A passage that is broken or has
tabs has none left, and one that is cut has none left at its end.
-/
def pointsLeft (width : Nat) (flushRight : Bool) (passage : Passage) : List String :=
  let line := Glyph.characters passage.glyphs
  if line.contains '\n' || line.contains '\t' || 1 < (Text.wrap width line).length then
    []
  else
    let lengths := line.length :: (fittingSteps width flushRight line).map List.length
    let isLeft (position : Nat) : Bool :=
      (lengths.zip lengths.tail).all fun (before, after) => before ≤ after || position < after
    (passage.points.filter fun point => isLeft point.1).map Prod.snd

/-- The texts of all styles that a passage is shown in when it stands in a column. -/
def styles (width : Nat) (flushRight : Bool) (passage : Passage) : List String :=
  ((passage.lines width flushRight).flatMap fun line => line.flatMap Glyph.styles) ++
    passage.pointsLeft width flushRight

/-- A text in which no part has a style is a text without styles. -/
theorem ofSpans_nil (text : String) : ofSpans text.toList [] = plain text := by
  have forgotten : text.toList.zipIdx.map Prod.fst = text.toList := List.zipIdx_map_fst 0 _
  simp only [ofSpans, plain, List.filter_nil, List.map_nil, Passage.mk.injEq, and_true]
  rw [← congrArg (List.map fun character => ({ character } : Glyph)) forgotten, List.map_map]
  rfl

end Passage

example : Glyph.characters (Glyph.expandTabs (Passage.plain "ab\tc").glyphs) =
    "ab      c".toList := by
  decide +kernel

end Markup

end GrammarCorpus
