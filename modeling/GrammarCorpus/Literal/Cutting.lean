import GrammarCorpus.Literal.Lexeme

namespace GrammarCorpus

/-!
# Cutting texts into lexemes

A text is cut into lexemes from left to right. Blanks and comments stand between them,
and so do the line ends inside brackets. The cut ends with the text or at the first place
where no lexeme can be cut.

A backslash at the end of a line joins the next one to it. The indentation of a line
matters if no bracket is open: it begins or ends a block.
-/

namespace Literal

/-- What has been cut from a text. -/
structure Cutting where
  lexemes : List Lexeme
  fault : Option Fault
  /-- Whether the end of the text is met already when the last lexeme is cut. -/
  meetsEnd : Bool
deriving DecidableEq, Repr

namespace Cutting

/-- A text that is cut no further. -/
def ending (lexemes : List Lexeme) (fault : Option Fault) : Cutting where
  lexemes
  fault
  meetsEnd := false

end Cutting

/-- Passes over the end of a line that a backslash joins to the next one. -/
def continueLine (place : Place) : List Char → Except Fault (Place × List Char)
  | ['\n'] => .error (place.unfinished .endInContinuation)
  | '\n' :: rest => .ok ({ place with line := place.line + 1 }, rest)
  | _ => .error (place.fault false .brokenContinuation)

/-- Whether a character does not end the line. -/
def isOnLine (character : Char) : Bool :=
  character ≠ '\n'

/-- Cuts what stands at a place within a line, in front of a character and those behind. -/
def cutWithin (place : Place) (character : Char) (rest : List Char) : Except Fault Cut :=
  if isGap character then
    .ok ([], place, rest)
  else if character = '#' then
    .ok ([], place, rest.dropWhile isOnLine)
  else if character = '\n' then
    .ok (if place.brackets = [] then [place.lexeme .lineEnd []] else [], place.nextLine, rest)
  else if character = '\\' then
    (continueLine place rest).map fun (place, rest) => ([], place, rest)
  else if beginsQuotation (character :: rest) then
    cutQuotation place (character :: rest)
  else if character.isDigit || (character = '.' && digitFollows rest) then
    cutNumber place (character :: rest)
  else if isNameLike character then
    cutName place (character :: rest)
  else
    cutSign place character rest

/--
The columns that an indentation reaches, counted twice: with tabs to every eighth column
and with tabs of a single one. A form feed begins anew. The columns in front of the
first backslash are the ones that count, if there are any.
-/
def measureFrom (place : Place) (columns joined : Nat × Nat) :
    List Char → Except Fault ((Nat × Nat) × Place × List Char)
  | ' ' :: rest => measureFrom place (columns.1 + 1, columns.2 + 1) joined rest
  | '\t' :: rest => measureFrom place ((columns.1 / 8 + 1) * 8, columns.2 + 1) joined rest
  | '\x0c' :: rest => measureFrom place (0, 0) joined rest
  | '\\' :: '\n' :: character :: rest =>
      measureFrom { place with line := place.line + 1 } columns
        (if joined.1 = 0 then (columns.1, columns.1) else joined) (character :: rest)
  | '\\' :: rest => (continueLine place rest).map fun (place, rest) => (columns, place, rest)
  | rest => .ok (if joined.1 = 0 then columns else joined, place, rest)

/-- The indentations that are left when a line begins at a column, and how many end. -/
def outdent (column : Nat) : List (Nat × Nat) → Nat × List (Nat × Nat)
  | [] => (0, [])
  | indent :: indents =>
      if column < indent.1 then
        let (count, left) := outdent column indents
        (count + 1, left)
      else
        (0, indent :: indents)

/-- Cuts the change of the indentation at the beginning of a line. -/
def cutIndent (place : Place) (columns : Nat × Nat) :
    Except Fault (List Lexeme × Place) :=
  let current := place.indentation
  if columns.1 > current.1 then
    if columns.2 ≤ current.2 then
      .error (place.fault false .mixedTabs)
    else
      .ok ([place.lexeme .indent []], { place with indents := columns :: place.indents })
  else
    let (count, indents) := outdent columns.1 place.indents
    let outside := { place with indents }
    if columns.1 ≠ outside.indentation.1 then
      .error (place.fault false .unmatchedDedent)
    else if columns.2 ≠ outside.indentation.2 then
      .error (place.fault false .mixedTabs)
    else
      .ok (List.replicate count (place.lexeme .dedent []), outside)

/-- Cuts the changes of the indentation in front of some characters of a new line. -/
def cutStart (place : Place) (characters : List Char) : Except Fault Cut := do
  let (columns, place, rest) ← measureFrom place (0, 0) (0, 0) characters
  match rest with
  | [] => return ([], place, [])
  | character :: _ =>
      if character = '#' || character = '\n' then
        match rest.dropWhile isOnLine with
        | [] => return ([], place, [])
        | _ :: rest => return ([], place.nextLine, rest)
      else if place.brackets = [] then
        let (changes, place) ← cutIndent place columns
        return (changes, { place with atStart := false }, rest)
      else
        return ([], { place with atStart := false }, rest)

/--
Cuts what stands at a place in front of some characters. The changes of the indentation
are cut even if nothing can be cut behind them.
-/
def cutNext (place : Place) (characters : List Char) :
    List Lexeme × Except Fault (Place × List Char) :=
  let start := if place.atStart then cutStart place characters else .ok ([], place, characters)
  match start with
  | .error fault => ([], .error fault)
  | .ok (changes, place, rest) =>
      match place.atStart, rest with
      | false, character :: further =>
          match cutWithin place character further with
          | .error fault => (changes, .error fault)
          | .ok (found, place, rest) => (changes ++ found, .ok (place, rest))
      | _, _ => (changes, .ok (place, rest))

/-- Cuts some characters from a place on. -/
def cutFrom (place : Place) (characters : List Char) : Cutting :=
  if characters = [] then
    if place.brackets = [] then
      .ending [place.lexeme .stop []] none
    else
      .ending [] (some (place.unfinished .invalid))
  else
    match cutNext place characters with
    | (found, .error fault) => .ending found (some fault)
    | (found, .ok (place, rest)) =>
        if rest.length < characters.length then
          let further := cutFrom place rest
          { further with
            lexemes := found ++ further.lexemes
            meetsEnd :=
              if rest = [] then (found.getLast?).any Lexeme.isOpenEnded else further.meetsEnd }
        else
          .ending found (some (place.fault true .invalid))
termination_by characters.length

/-- Cuts a text whose first line has a number. -/
def cut (line : Nat) (characters : List Char) : Cutting :=
  cutFrom (.first line) characters

example :
    (cut 1 "f(1,\n 'a')".toList).lexemes.map Lexeme.text =
      ["f", "(", "1", ",", "'a'", ")", ""] := by
  decide +kernel

example : ((cut 1 "(1\x7d".toList).fault.map (·.mistake)) = some (.mismatched '}' '(' none) := by
  decide +kernel

end Literal

end GrammarCorpus
