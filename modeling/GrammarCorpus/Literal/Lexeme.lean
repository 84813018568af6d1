import GrammarCorpus.Literal.Numeral
import GrammarCorpus.Text.Letter
import GrammarCorpus.Text.Scan

namespace GrammarCorpus

/-!
# Lexemes of literals

A lexeme is a name, a number, a quotation, a sign, the end of a line or a change of the
indentation. A single one is cut here from the characters in front of which it stands.
Square brackets are no signs here: they end the tag in which a literal stands.
-/

namespace Literal

/-- The kinds of lexemes. -/
inductive Kind where
  | name
  | number
  | quotation
  /-- A sign, or a word with a meaning of its own. -/
  | sign
  | lineEnd
  | indent
  | dedent
  | stop
deriving DecidableEq, Repr

/-- A lexeme, the line where it begins, and how many brackets are open behind it. -/
structure Lexeme where
  kind : Kind
  text : String
  line : Nat
  depth : Nat
deriving DecidableEq, Repr

/-- Whether a character is a quote. -/
def isQuote (character : Char) : Bool :=
  character = '\'' || character = '"'

namespace Lexeme

/--
Whether the end of a lexeme is known only by what follows. Two quotes can begin three,
and shorter signs longer ones.
-/
def isOpenEnded (lexeme : Lexeme) : Bool :=
  match lexeme.kind with
  | .name | .number => true
  | .sign => lexeme.text.length < 3
  | .quotation => (lexeme.text.toList.dropWhile (!isQuote ·)).length = 2
  | _ => false

end Lexeme

/-- The reason why a text can be cut no further. -/
structure Fault where
  mistake : Mistake
  /-- Whether the characters are wrong in themselves, whatever stands before them. -/
  isGrave : Bool
  /-- The innermost bracket that is open, and its line. -/
  bracket : Option (Char × Nat)
deriving DecidableEq, Repr

/-- A place between two lexemes. -/
structure Place where
  line : Nat
  /-- Whether a new line begins here. -/
  atStart : Bool
  /-- The brackets that are open and their lines, the innermost first. -/
  brackets : List (Char × Nat)
  /-- The indentations of the lines around, the innermost first. -/
  indents : List (Nat × Nat)
deriving DecidableEq, Repr

namespace Place

/-- The place in front of a text. -/
def first (line : Nat) : Place where
  line
  atStart := true
  brackets := []
  indents := []

/-- A lexeme at a place, which leaves the brackets as they are. -/
def lexeme (place : Place) (kind : Kind) (text : List Char) : Lexeme where
  kind
  text := String.ofList text
  line := place.line
  depth := place.brackets.length

/-- The place in front of the next line. -/
def nextLine (place : Place) : Place :=
  { place with line := place.line + 1, atStart := true }

/-- The fault of a mistake at a place. -/
def fault (place : Place) (isGrave : Bool) (mistake : Mistake) : Fault where
  mistake
  isGrave
  bracket := place.brackets.head?

/-- The fault of a text that ends at a place but cannot. -/
def unfinished (place : Place) (mistake : Mistake) : Fault :=
  place.fault false ((place.brackets.head?.map fun bracket => .neverClosed bracket.1).getD mistake)

/-- The indentation of the line in which a place is. -/
def indentation (place : Place) : Nat × Nat :=
  place.indents.head?.getD (0, 0)

end Place

/-- What is cut at a place: some lexemes, the place behind them and the characters left. -/
abbrev Cut :=
  List Lexeme × Place × List Char

/-- Whether a character separates lexemes on a line. -/
def isGap (character : Char) : Bool :=
  character = ' ' || character = '\t' || character = '\x0c'

/-- The words with a meaning of their own. -/
def reservedWords : List String :=
  ["False", "None", "True", "and", "as", "assert", "async", "await", "break", "class",
    "continue", "def", "del", "elif", "else", "except", "finally", "for", "from", "global",
    "if", "import", "in", "is", "lambda", "nonlocal", "not", "or", "pass", "raise",
    "return", "try", "while", "with", "yield"]

/-- The first character that a name cannot have where it stands. -/
def misfit? : List Char → Option Char
  | [] => none
  | first :: rest =>
      if Text.beginsName first then rest.find? (!Text.isInName ·) else some first

/-- Cuts a name or a reserved word. -/
def cutName (place : Place) (characters : List Char) : Except Fault Cut :=
  let word := characters.takeWhile isNameLike
  match misfit? word with
  | some character =>
      .error (place.fault true
        (if Text.isPrintable character then .badCharacter character
        else .unprintable character))
  | none =>
      let kind : Kind :=
        if reservedWords.contains (String.ofList word) then .sign else .name
      .ok ([place.lexeme kind word], place, characters.dropWhile isNameLike)

/-- Cuts a number. -/
def cutNumber (place : Place) (characters : List Char) : Except Fault Cut :=
  match readNumber characters with
  | .error mistake => .error (place.fault true mistake)
  | .ok rest =>
      let text := characters.take (characters.length - rest.length)
      .ok ([place.lexeme .number text], place, rest)

/-- What can stand in front of a quote, in lower case. -/
def quotationMarks : List String :=
  ["b", "u", "r", "f", "br", "rb", "fr", "rf"]

/-- Whether some characters begin with a quotation. -/
def beginsQuotation (characters : List Char) : Bool :=
  let mark := characters.takeWhile isNameLike
  ((characters.dropWhile isNameLike).head?).any isQuote &&
    (mark = [] || quotationMarks.contains (String.ofList (mark.map Char.toLower)))

/--
The characters behind the quote that closes a quotation on one line. Without such a
quote, the number of lines that have been passed.
-/
def behindQuote (quote : Char) (lines : Nat) : List Char → Except Nat (List Char)
  | [] => .error lines
  | '\\' :: '\n' :: rest => behindQuote quote (lines + 1) rest
  | '\\' :: _ :: rest => behindQuote quote lines rest
  | character :: rest =>
      if character = quote then .ok rest
      else if character = '\n' then .error lines
      else behindQuote quote lines rest

/-- The characters behind the three quotes that close a quotation, likewise. -/
def behindQuotes (quote : Char) (lines : Nat) : List Char → Except Nat (List Char)
  | [] => .error lines
  | '\\' :: '\n' :: rest => behindQuotes quote (lines + 1) rest
  | '\\' :: _ :: rest => behindQuotes quote lines rest
  | character :: rest =>
      if character = quote && [quote, quote].isPrefixOf rest then .ok (rest.drop 2)
      else behindQuotes quote (if character = '\n' then lines + 1 else lines) rest

/-- The number of line feeds among some characters. -/
def lineFeeds (characters : List Char) : Nat :=
  characters.count '\n'

/-- Cuts a quotation. -/
def cutQuotation (place : Place) (characters : List Char) : Except Fault Cut :=
  match characters.dropWhile (!isQuote ·) with
  | [] => .error (place.fault true .invalid)
  | quote :: inside =>
      let isLong := [quote, quote].isPrefixOf inside
      let behind :=
        if isLong then behindQuotes quote 0 (inside.drop 2) else behindQuote quote 0 inside
      match behind with
      | .error lines =>
          .error (place.fault true (.unterminatedText isLong (place.line + lines)))
      | .ok rest =>
          let text := characters.take (characters.length - rest.length)
          .ok ([place.lexeme .quotation text],
            { place with line := place.line + lineFeeds text }, rest)

/-- The signs of more than one character, longer ones first. -/
def longSigns : List String :=
  ["...", "**=", "//=", "<<=", ">>=", "!=", "%=", "&=", "**", "*=", "+=", "-=", "->", "//",
    "/=", ":=", "<<", "<=", "<>", "==", ">=", ">>", "@=", "^=", "|="]

/-- The opening brackets with those that close them. -/
def bracketPairs : List (Char × Char) :=
  [('(', ')'), ('{', '}')]

/-- Cuts a sign. -/
def cutSign (place : Place) (character : Char) (rest : List Char) : Except Fault Cut :=
  match longSigns.find? fun sign => sign.toList.isPrefixOf (character :: rest) with
  | some sign =>
      .ok ([place.lexeme .sign sign.toList], place, rest.drop (sign.length - 1))
  | none =>
      if bracketPairs.any (·.1 = character) then
        let inside := { place with brackets := (character, place.line) :: place.brackets }
        .ok ([inside.lexeme .sign [character]], inside, rest)
      else if bracketPairs.any (·.2 = character) then
        match place.brackets with
        | [] => .error (place.fault true (.unmatched character))
        | (opening, line) :: brackets =>
            if bracketPairs.contains (opening, character) then
              let outside := { place with brackets }
              .ok ([outside.lexeme .sign [character]], outside, rest)
            else
              .error (place.fault true (.mismatched character opening
                (if line = place.line then none else some line)))
      else if Text.isPrintable character then
        .ok ([place.lexeme .sign [character]], place, rest)
      else
        .error (place.fault true (.unprintable character))

end Literal

end GrammarCorpus
