import GrammarCorpus.Markup.Action
import GrammarCorpus.Markup.Passage
import GrammarCorpus.Markup.Picture
import GrammarCorpus.Markup.Style

namespace GrammarCorpus

/-!
# Marked-up text

A text can hold tags in square brackets. An opening tag begins a style, and a closing
tag, which has a slash in front, ends the latest style of its name, or simply the
latest. On a page without styles nothing is seen of them, but the value of an action is
read when it is closed. Backslashes in front of a tag are halved; if their number is odd,
the tag is shown as it is written.

Between the tags pictures are put in place of their names. Characters that would move
the position on the page are left out.
-/

namespace Markup

/-- A part of a marked-up text. -/
inductive Piece where
  | text (characters : List Char)
  /-- What stands between the brackets, and where the first bracket stands. -/
  | tag (position : Nat) (body : List Char)
deriving DecidableEq, Repr

/-- Whether a character can be the first of a tag. -/
def beginsTag (character : Char) : Bool :=
  ('a' ≤ character && character ≤ 'z') || character = '#' || character = '/' ||
    character = '@'

/-- The tag that begins a text, without its brackets. -/
def tagInFront? : List Char → Option (List Char)
  | '[' :: first :: rest =>
      let isInTag (character : Char) : Bool := character ≠ '[' && character ≠ ']'
      if beginsTag first && (rest.dropWhile isInTag).head? = some ']' then
        some (first :: rest.takeWhile isInTag)
      else
        none
  | _ => none

/-- A tag and the number of backslashes in front of it. -/
structure Mark where
  backslashes : Nat
  body : List Char
deriving DecidableEq, Repr

namespace Mark

/-- The mark that begins a text. -/
def inFront? (characters : List Char) : Option Mark :=
  let isBackslash (character : Char) : Bool := character = '\\'
  (tagInFront? (characters.dropWhile isBackslash)).map fun body =>
    { backslashes := (characters.takeWhile isBackslash).length, body }

/-- The number of characters of a mark. -/
def length (mark : Mark) : Nat :=
  mark.backslashes + mark.body.length + 2

/-- What a mark amounts to at a position. -/
def pieces (mark : Mark) (position : Nat) : List Piece :=
  [.text (List.replicate (mark.backslashes / 2) '\\'),
    if mark.backslashes % 2 = 0 then
      .tag (position + mark.backslashes) mark.body
    else
      .text (['['] ++ mark.body ++ [']'])]

end Mark

/-- The text before a mark, which is kept in reverse; a bracket needs no backslash there. -/
def unescaped (reversed : List Char) : List Char :=
  ['['].intercalate (Text.splitOn ['\\', '['] reversed.reverse)

/--
The pieces of a text from a position on, when `pending` characters are passed over
first. The characters since the last mark are kept in reverse.
-/
def piecesFrom (position : Nat) (reversed : List Char) : Nat → List Char → List Piece
  | _, [] => [.text (unescaped reversed)]
  | pending + 1, _ :: rest => piecesFrom (position + 1) reversed pending rest
  | 0, character :: rest =>
      match Mark.inFront? (character :: rest) with
      | none => piecesFrom (position + 1) (character :: reversed) 0 rest
      | some mark =>
          .text (unescaped reversed) :: mark.pieces position ++
            piecesFrom (position + 1) [] (mark.length - 1) rest

/-- The pieces of a text. -/
def pieces (characters : List Char) : List Piece :=
  piecesFrom 0 [] 0 characters

/-- What a tag is called, and the value assigned to it, if there is one. -/
def nameAndValue (body : List Char) : List Char × Option (List Char) :=
  match Text.partition? '=' body with
  | some (name, value) => (name, some value)
  | none => (body, none)

/-- A style that has been opened. -/
structure Opening where
  /-- The normal form of what the tag is called. -/
  name : String
  /-- The value assigned to it. -/
  value : Option (List Char)
  /-- The number of characters in front that are seen. -/
  position : Nat
deriving DecidableEq, Repr

namespace Opening

/-- What an opening tag behind so many characters opens. -/
def ofTag (position : Nat) (body : List Char) : Except MarkupError Opening := do
  let (name, value) := nameAndValue body
  return { name := ← normalForm name, value, position }

/--
The part of the text that has the style, if it ends at a position. Only the text of a
style with a value has still to be read; the others are known by their normal forms.
-/
def span? (opening : Opening) (last : Nat) : Option Span :=
  opening.value.map fun value =>
    { first := opening.position, last, style := opening.name ++ " " ++ String.ofList value }

/-- The parts of the text that have the style, when a tag closes it at a position. -/
def closedSpans (opening : Opening) (last : Nat) : Except MarkupError (List Span) := do
  if isAction opening.name then
    checkAction (opening.value.getD [])
    return []
  else
    return (opening.span? last).toList

end Opening

/--
The opening that a closing tag refers to, and what else is open. The openings are
given with the latest first.
-/
def close (position : Nat) (body : List Char) (opened : List Opening) :
    Except MarkupError (Opening × List Opening) := do
  let name := trim (nameAndValue body).1.tail
  if name = [] then
    match opened with
    | [] => throw (.nothingToClose position)
    | latest :: before => return (latest, before)
  else
    let style ← normalForm name
    match opened.find? (·.name = style) with
    | some opening => return (opening, opened.eraseP (·.name = style))
    | none => throw (.notOpen (String.ofList (['['] ++ body ++ [']'])) position)

/-- Whether a character is left out: it would ring, go back or go to another line. -/
def isDropped (character : Char) : Bool :=
  [7, 8, 11, 12, 13].contains character.toNat

/-- What is seen of a text without tags. -/
def shown (characters : List Char) : List Char :=
  (draw characters).filter (!isDropped ·)

/--
Reads pieces behind the characters that have been seen, and the styles of their parts,
while some styles are open. What is open at the end is closed there.
-/
def readFrom (seen : List Char) (spans : List Span) (opened : List Opening) :
    List Piece → Except MarkupError Passage
  | [] => .ok (.ofSpans seen (spans ++ opened.filterMap (·.span? seen.length)))
  | .text characters :: rest => readFrom (seen ++ shown characters) spans opened rest
  | .tag position body :: rest => do
      if body.head? = some '/' then
        let (opening, opened) ← close position body opened
        readFrom seen (spans ++ (← opening.closedSpans seen.length)) opened rest
      else
        readFrom seen spans ((← Opening.ofTag seen.length body) :: opened) rest

/-- What a marked-up text says, with its styles. -/
def read (text : String) : Except MarkupError Passage :=
  readFrom [] [] [] (pieces text.toList)

/-- Whether the texts of styles can be read, as far as they describe styles at all. -/
def checkStyles (styles : List String) : Except MarkupError Unit :=
  styles.forM fun style => do
    let _ ← normalForm style.toList

example :
    ((read "[b]x[/B] \\[b]").toOption.map Passage.text) = some "x [b]" ∧
      (read "a[/b]").toOption = none := by
  decide +kernel

/-- Without a bracket there is no tag. -/
theorem tagInFront?_eq_none
    {characters : List Char}
    (plain : '[' ∉ characters) :
    tagInFront? characters = none := by
  unfold tagInFront?
  split
  · exact absurd List.mem_cons_self plain
  · rfl

/-- Without a bracket there is no mark. -/
theorem inFront?_eq_none
    {characters : List Char}
    (plain : '[' ∉ characters) :
    Mark.inFront? characters = none := by
  have behind : '[' ∉ characters.dropWhile fun character => decide (character = '\\') :=
    fun member => plain ((List.dropWhile_sublist _).subset member)
  simp [Mark.inFront?, tagInFront?_eq_none behind]

/-- Without a bracket there is nothing to free from backslashes. -/
theorem unescaped_eq_reverse
    {reversed : List Char}
    (plain : '[' ∉ reversed) :
    unescaped reversed = reversed.reverse := by
  have absent : '[' ∉ reversed.reverse := by simpa using plain
  have inside : '[' ∈ ['\\', '['] := by decide
  simp [unescaped, Text.splitOn_eq_singleton inside absent, List.intercalate]

/-- Without a bracket all is one piece. -/
theorem piecesFrom_eq_singleton
    {characters : List Char}
    (reversed : List Char)
    (position : Nat)
    (plain : '[' ∉ characters)
    (plainBefore : '[' ∉ reversed) :
    piecesFrom position reversed 0 characters =
      [.text (reversed.reverse ++ characters)] := by
  induction characters generalizing reversed position with
  | nil =>
      simp [piecesFrom, unescaped_eq_reverse plainBefore]
  | cons character rest inductionHypothesis =>
      have further := inductionHypothesis (character :: reversed) (position + 1)
        (fun member => plain (List.mem_cons_of_mem _ member))
        (by simp only [List.mem_cons, not_or] at plain ⊢; exact ⟨plain.1, plainBefore⟩)
      simp [piecesFrom, inFront?_eq_none plain, further]

end Markup

end GrammarCorpus
