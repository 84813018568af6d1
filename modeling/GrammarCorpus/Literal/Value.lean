import GrammarCorpus.Literal.Insertion
import GrammarCorpus.Literal.Reading
import GrammarCorpus.Literal.Refusal
import GrammarCorpus.Text.Utf8

namespace GrammarCorpus

/-!
# Literals and their values

A literal is an expression that is a value as it is written: a number with a sign, the
sum of a real and an imaginary one, a text, bytes, one of the constants, or a tuple, a
set or a dictionary of literals. Sets and dictionaries can be neither items of sets nor
keys of dictionaries.
-/

namespace Literal

/-- What has been judged of some quotations in a row. -/
structure Quoted where
  isBytes : Bool
  hasInsertions : Bool
deriving DecidableEq, Repr

namespace Quoted

/-- The tree of quotations. -/
def tree (quoted : Quoted) : Tree :=
  if quoted.isBytes then .bytes else if quoted.hasInsertions then .formatted else .text

end Quoted

/-- An expression of an insertion as a source; the brackets let it go over several lines. -/
def Excerpt.source (excerpt : Excerpt) (lexeme : Lexeme)
    (quote : List Lexeme → Except (Mistake ⊕ Mistake) Tree) : Source :=
  let line := lexeme.line + lineFeeds lexeme.text.toList - excerpt.lineFeedsBehind
  let cutting := cut line (['('] ++ excerpt.characters ++ [')', '\n'])
  .ofCutting cutting quote .inserted

/--
What quotations in a row amount to. A mistake in the quotations themselves is told apart
from one in an expression that is inserted. Insertions can hold quotations; the fuel
bounds how often.
-/
def quote : Nat → List Lexeme → Except (Mistake ⊕ Mistake) Tree
  | 0, _ => .ok .text
  | fuel + 1, lexemes => do
      let join (before : Option Quoted) (lexeme : Lexeme) :
          Except (Mistake ⊕ Mistake) (Option Quoted) := do
        let quotation := Quotation.ofLexeme lexeme
        if !quotation.hasInsertions then
          let _ ← (quotation.check).mapError .inl
        if before.any (·.isBytes ≠ quotation.isBytes) then
          throw (.inl .mixedBytes)
        if quotation.hasInsertions then
          let (excerpts, mistake) := quotation.excerpts
          excerpts.forM fun excerpt => do
            let source := excerpt.source lexeme (quote fuel)
            let _ ← (source.read .inserted).mapError .inr
          if let some mistake := mistake then
            throw (.inl mistake)
        return some
          { isBytes := quotation.isBytes
            hasInsertions := quotation.hasInsertions || before.any (·.hasInsertions) }
      return ((← lexemes.foldlM join none).map Quoted.tree).getD .text

/-- The expression that a text is. -/
def read (characters : List Char) : Except Mistake Tree :=
  (Source.ofCutting (cut 1 characters) (quote (characters.length + 1)) id).read .literal

namespace Tree

mutual

/-- The kind of a value that cannot be an item of a set or a key, found in a value. -/
def unhashable? : Tree → Option String
  | dictionary _ => some "dict"
  | set _ | call _ _ => some "set"
  | tuple items => firstUnhashable? items
  | _ => none

/-- The first kind of value among some that cannot be an item of a set. -/
def firstUnhashable? : List Tree → Option String
  | [] => none
  | item :: items => item.unhashable?.or (firstUnhashable? items)

end

/-- Whether a value can be an item of a set or a key. -/
def checkHashable (tree : Tree) : Except Refusal Unit :=
  match tree.unhashable? with
  | some kind => .error (.unhashable kind)
  | none => .ok ()

/-- Whether a number is imaginary, if the expression is one without a sign. -/
def number? : Tree → Option Bool
  | number isImaginary => some isImaginary
  | _ => none

/-- Whether a number is imaginary, if the expression is one, with a sign or without. -/
def signedNumber? : Tree → Option Bool
  | signed operand => operand.number?
  | tree => tree.number?

mutual

/-- Checks that an expression is a value. -/
def checkValue : Tree → Except Refusal Unit
  | text | bytes | constant _ | number _ => .ok ()
  | tuple items => checkItems items
  | set items => checkSet items
  | dictionary entries => checkEntries entries
  | call (.name "set") (.arguments []) => .ok ()
  | sum left right =>
      if left.signedNumber? = some false && right.number? = some true then .ok ()
      else .error .malformed
  | signed operand => if operand.number?.isSome then .ok () else .error .malformed
  | _ => .error .malformed

/-- Checks that some expressions are values. -/
def checkItems : List Tree → Except Refusal Unit
  | [] => .ok ()
  | item :: items => do
      checkValue item
      checkItems items

/-- Checks that some expressions are values that a set can have. -/
def checkSet : List Tree → Except Refusal Unit
  | [] => .ok ()
  | item :: items => do
      checkValue item
      checkHashable item
      checkSet items

/-- Checks that entries have values, and keys that a dictionary can have. -/
def checkEntries : List Tree → Except Refusal Unit
  | [] => .ok ()
  | .entry key value :: entries => do
      checkValue key
      checkValue value
      checkHashable key
      checkEntries entries
  | _ :: _ => .error .malformedEntry

end

end Tree

/-- Whether a character may stand in front of a literal. -/
def isInFront (character : Char) : Bool :=
  character = ' ' || character = '\t'

/-- Checks that a text is a literal. -/
def check (characters : List Char) : Except Refusal Unit := do
  if characters.contains '\x00' then
    throw (.mistaken .nullCharacter)
  let tree ← (read (Text.unifyLineEnds (characters.dropWhile isInFront))).mapError .mistaken
  tree.checkValue

example :
    (Tree.dictionary [.entry .text (.tuple [.number false])]).checkValue.toOption = some () ∧
      (Tree.dictionary [.entry (.dictionary []) .text]).checkValue.toOption = none := by
  decide +kernel

end Literal

end GrammarCorpus
