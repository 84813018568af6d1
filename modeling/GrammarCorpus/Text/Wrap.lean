import GrammarCorpus.Text.Blank
import GrammarCorpus.Text.CellWidth
import GrammarCorpus.Text.Scan

namespace GrammarCorpus

/-!
# Breaking text into lines

A text is broken between words when the next word does not fit any more. The blanks
behind a word go with it, but do not count for its fitting. A word that is wider than a
whole line gets a line of its own, which is cut short afterwards: what is lost there is
stood for by an ellipsis.
-/

namespace Text

/-- A text without the blanks at its end. -/
def trimRight (characters : List Char) : List Char :=
  (characters.reverse.dropWhile isBlank).reverse

/-- Appends a character to the last of some words, which are kept in reverse. -/
def extendLast (character : Char) : List (List Char) → List (List Char)
  | [] => [[character]]
  | word :: words => (character :: word) :: words

/--
The words of a text, each with the blanks behind it; blanks in front of the first
word go with it. Words so far are kept in reverse, and so are their characters.
-/
def wordsFrom (words : List (List Char)) (inBlanks : Bool) : List Char → List (List Char)
  | [] => (words.map List.reverse).reverse
  | character :: rest =>
      if isBlank character then
        wordsFrom (extendLast character words) (words.any (·.any fun other => !isBlank other)) rest
      else if inBlanks then
        wordsFrom ([character] :: words) false rest
      else
        wordsFrom (extendLast character words) false rest

/-- Adds a word to the lines so far, which are kept in reverse. -/
def addWord (width : Nat) (lines : List (List Char)) (word : List Char) : List (List Char) :=
  match lines with
  | [] => [word]
  | current :: before =>
      if cells current + cells (trimRight word) ≤ width then
        (current ++ word) :: before
      else
        word :: current :: before

/-- Breaks one line between words, so that words which fit on a line are not cut. -/
def wrap (width : Nat) (characters : List Char) : List (List Char) :=
  let lines := ((wordsFrom [] false characters).foldl (addWord width) []).reverse
  if lines.isEmpty then [[]] else lines

/--
A line without the blanks at its end, as far as it has more characters than a line has
cells.
-/
def trimExcess (width : Nat) (line : List Char) : List Char :=
  line.take (max width (trimRight line).length)

/--
The part of a line that fills so many cells. The place for the cut is found by bisection
of the places between two bounds; a blank stands for a wide character in the middle of
which it would lie.
-/
def bisect (width : Nat) (line : List Char) : Nat → Nat → Nat → List Char
  | 0, first, _ => line.take first
  | steps + 1, first, last =>
      let middle := (first + last) / 2
      let part := line.take (middle + 1)
      let straddles := (part.getLast?).any fun character => cellWidth character = 2
      if cells part = width + 1 && straddles then part.dropLast ++ [' ']
      else if cells part = width then part
      else if width < cells part then bisect width line steps first middle
      else bisect width line steps middle last

/-- The part of a line that fills so many cells, which are not more than it has. -/
def cut (width : Nat) (line : List Char) : List Char :=
  if width = 0 then [] else bisect width line (line.length + 1) 0 line.length

/-- A line that is wider than it may be ends in an ellipsis instead. -/
def shorten (width : Nat) (line : List Char) : List Char :=
  if width < cells line then cut (width - 1) line ++ ['…'] else line

example :
    (wrap 7 "ab cd ef ghi".toList).map String.ofList = ["ab cd ", "ef ghi"] := by
  decide +kernel

example : shorten 5 "abcdefgh".toList = "abcd…".toList := by
  decide +kernel

example : shorten 4 "日本日本".toList = "日 …".toList := by
  decide +kernel

end Text

end GrammarCorpus
