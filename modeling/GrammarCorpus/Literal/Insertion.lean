import GrammarCorpus.Literal.Quotation

namespace GrammarCorpus

/-!
# Insertions into texts

A text with insertions has expressions in braces. Behind an expression an equals sign,
an exclamation mark with the letter of a conversion, and a colon with a format can
stand; a format can have insertions itself. Outside of formats a doubled brace is a
brace of the text.

Only the end of an expression is looked for here, by its brackets and quotes. What is
found is told in the order of reading, so that the first mistake of a quotation can be
told: the expressions, and the mistake after them, if there is one.
-/

namespace Literal

/-- An expression in a text with insertions. -/
structure Excerpt where
  characters : List Char
  /-- The number of line feeds behind its beginning. -/
  lineFeedsBehind : Nat
deriving DecidableEq, Repr

/-- A search that finds expressions and ends with a value or with a mistake. -/
abbrev Search :=
  ExceptT Mistake (StateM (List Excerpt))

/-- How many formats can be around an expression, itself included. -/
def formatDepth : Nat :=
  2

/-- A piece of text, whether it ends with a doubled brace, and the characters behind. -/
structure Stretch where
  text : List Char
  isDoubled : Bool
  rest : List Char
deriving DecidableEq, Repr

namespace Stretch

/-- Puts some characters in front of a stretch. -/
def behind (characters : List Char) (stretch : Stretch) : Stretch :=
  { stretch with text := characters ++ stretch.text }

/-- The end of a stretch in front of some characters. -/
def ending (rest : List Char) : Stretch where
  text := []
  isDoubled := false
  rest

end Stretch

/-- Whether a character is a brace. -/
def isBrace (character : Char) : Bool :=
  character = '{' || character = '\x7d'

/-- The number of characters of a name in braces, or of what is taken for one. -/
def nameLength : List Char → Nat
  | '{' :: named => (named.takeWhile isInBraces).length + 2
  | _ => 1

/-- The end of a stretch at a brace. -/
def endStretch (inFormat : Bool) (brace : Char) (rest : List Char) : Except Mistake Stretch :=
  if inFormat then
    .ok (.ending (brace :: rest))
  else if rest.head? = some brace then
    .ok { text := [brace], isDoubled := true, rest := rest.tail }
  else if brace = '{' then
    .ok (.ending (brace :: rest))
  else
    .error (.inserted .singleClosingBrace)

/--
Reads a stretch of text up to a brace or to the end. The names of characters have braces
of their own; a backslash does not guard a brace.
-/
def readStretch (isRaw inFormat : Bool) : Nat → List Char → Except Mistake Stretch
  | 0, rest => .ok (.ending rest)
  | _, [] => .ok (.ending [])
  | fuel + 1, '\\' :: next :: rest =>
      if isRaw || isBrace next then
        (readStretch isRaw inFormat fuel (next :: rest)).map (.behind ['\\'])
      else
        let length := if next = 'N' then nameLength rest else 0
        (readStretch isRaw inFormat fuel (rest.drop length)).map
          (.behind (['\\', next] ++ rest.take length))
  | fuel + 1, character :: rest =>
      if isBrace character then endStretch inFormat character rest
      else (readStretch isRaw inFormat fuel rest).map (.behind [character])

/-- The characters behind a quotation in an expression. -/
def behindInner (quote : Char) (isLong : Bool) : List Char → Except Mistake (List Char)
  | [] => .error (.inserted .unterminatedInsertion)
  | character :: rest =>
      if character = '\\' then .error .backslashInInsertion
      else if character = quote && (!isLong || [quote, quote].isPrefixOf rest) then
        .ok (if isLong then rest.drop 2 else rest)
      else behindInner quote isLong rest

/-- The signs that are compared with, if an equals sign follows. -/
def comparisonSigns : List Char :=
  ['!', '=', '<', '>']

/-- The signs that end an expression. -/
def endingSigns : List Char :=
  ['!', ':', '=', '\x7d']

/-- The characters behind an expression, while some brackets are open. -/
def behindExpression (brackets : List Char) : Nat → List Char → Except Mistake (List Char)
  | 0, rest => .ok rest
  | _, [] =>
      match brackets with
      | [] => .ok []
      | bracket :: _ => .error (.inserted (.unmatched bracket))
  | fuel + 1, character :: rest =>
      if character = '\\' then
        .error .backslashInInsertion
      else if isQuote character then do
        let isLong := [character, character].isPrefixOf rest
        let inside := if isLong then rest.drop 2 else rest
        behindExpression brackets fuel (← behindInner character isLong inside)
      else if character = '#' then
        .error .commentInInsertion
      else if bracketPairs.any (·.1 = character) then
        behindExpression (character :: brackets) fuel rest
      else if brackets = [] && comparisonSigns.contains character && rest.head? = some '=' then
        behindExpression brackets fuel rest.tail
      else if brackets = [] && endingSigns.contains character then
        .ok (character :: rest)
      else if bracketPairs.any (·.2 = character) then
        match brackets with
        | [] => .error (.inserted (.unmatched character))
        | opening :: brackets =>
            if bracketPairs.contains (opening, character) then
              behindExpression brackets fuel rest
            else
              .error (.inserted (.mismatched character opening none))
      else
        behindExpression brackets fuel rest

/-- The mistake of an insertion that has no end. -/
def unclosed : Mistake :=
  .inserted .unclosedInsertion

/-- Whether a character can be passed over in an expression. -/
def isSpace (character : Char) : Bool :=
  isGap character || character = '\n'

/-- Whether a character can be passed over behind an equals sign. -/
def isSpaceBehindEquals (character : Char) : Bool :=
  isSpace character || character = '\r' || character = '\x0b'

/-- Finds the expression in front of some characters, and tells what is behind it. -/
def findExpression (inside : List Char) : Search (List Char) := do
  let rest ← behindExpression [] (inside.length + 1) inside
  match rest with
  | [] => throw unclosed
  | sign :: _ =>
      let characters := inside.take (inside.length - rest.length)
      if characters.all isSpace then
        throw (.inserted (.emptyInsertion (if sign = '\x7d' then none else some sign)))
      modify (· ++ [{ characters, lineFeedsBehind := lineFeeds inside }])
      return rest

/-- The letters of conversions. -/
def conversions : List Char :=
  ['s', 'r', 'a']

/-- Passes over an equals sign and a conversion behind an expression. -/
def passConversion (rest : List Char) : Except Mistake (List Char) := do
  let rest :=
    if rest.head? = some '=' then rest.tail.dropWhile isSpaceBehindEquals else rest
  match rest with
  | '!' :: letter :: rest =>
      if conversions.contains letter then return rest
      else throw (.inserted .badConversion)
  | ['!'] => throw unclosed
  | _ => return rest

mutual

/-- Searches a text, or a format so deep in others up to its closing brace. -/
def searchText (isRaw : Bool) : Nat → Nat → List Char → Search (List Char)
  | 0, _, rest => return rest
  | fuel + 1, depth, characters => do
      let stretch ← readStretch isRaw (depth ≠ 0) (characters.length + 1) characters
      if !isRaw then
        let _ ← checkEscapes stretch.text
      if stretch.isDoubled then
        searchText isRaw fuel depth stretch.rest
      else
        match stretch.rest with
        | '{' :: inside => do
            searchText isRaw fuel depth (← searchInsertion isRaw fuel depth inside)
        | [] => if depth = 0 then return [] else throw unclosed
        | rest => return rest

/-- Searches an insertion behind its opening brace. -/
def searchInsertion (isRaw : Bool) : Nat → Nat → List Char → Search (List Char)
  | 0, _, rest => return rest
  | fuel + 1, depth, inside => do
      if formatDepth ≤ depth then
        throw (.inserted .nestedTooDeep)
      let rest ← passConversion (← findExpression inside)
      let rest ←
        match rest with
        | [':'] => throw unclosed
        | ':' :: format => searchText isRaw fuel (depth + 1) format
        | _ => pure rest
      match rest with
      | '\x7d' :: rest => return rest
      | _ => throw unclosed

end

/-- The expressions in a quotation with insertions, and the mistake behind them, if any. -/
def Quotation.excerpts (quotation : Quotation) : List Excerpt × Option Mistake :=
  let search := searchText quotation.isRaw (2 * quotation.body.length + 2) 0 quotation.body
  match search.run.run [] with
  | (.ok _, excerpts) => (excerpts, none)
  | (.error mistake, excerpts) => (excerpts, some mistake)

end Literal

end GrammarCorpus
