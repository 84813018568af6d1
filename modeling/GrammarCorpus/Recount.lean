import GrammarCorpus.Grammar
import GrammarCorpus.Text.Blank
import GrammarCorpus.Text.Scan

namespace GrammarCorpus

/-!
# Counting a grammar from its text

The shape of a grammar can be read back from any of its renderings without
parsing it: the text between the first two section marks is cut into rules, the
rules into alternatives, and the symbols of an alternative are counted by their
looks. What a rendering adds to the symbols, such as an action block, is removed
first.
-/

/-- Why no shape can be read from a text. -/
inductive RecountError where
  /-- The text has no section mark. -/
  | noSection
  /-- Some rule has nothing that separates its name from its alternatives. -/
  | noColon
deriving DecidableEq, Repr

namespace RecountError

/-- The wording of the two failures. -/
def message : RecountError → String
  | noSection => "no %% section marker in grammar text"
  | noColon => "not enough values to unpack (expected 2, got 1)"

end RecountError

namespace Recount

/-- The characters a name may start with: ASCII letters and the underscore. -/
def isNameStart (character : Char) : Bool :=
  character.isAlpha || character = '_'

/-- The characters a name may go on with: ASCII letters, digits and the underscore. -/
def isNameRest (character : Char) : Bool :=
  character.isAlphanum || character = '_'

/--
The length of the symbol at the front of a text. A quoted symbol reaches to the
next apostrophe and needs one; a name reaches as far as it can.
-/
def symbolLength? : List Char → Option Nat
  | [] => none
  | character :: rest =>
      if character = '\'' then
        if rest.contains '\'' then
          some ((rest.takeWhile (· ≠ '\'')).length + 2)
        else
          none
      else if isNameStart character then
        some ((rest.takeWhile isNameRest).length + 1)
      else
        none

/-- The characters of an empty action block. -/
def actionBlock : List Char :=
  ['\x7b', ' ', '\x7d']

/-- The number of symbols in the text of one alternative. -/
def symbols (alternative : List Char) : Nat :=
  Text.countMatches symbolLength? (Text.erase actionBlock alternative)

/-- The shape of the text of one rule. -/
def rule (text : List Char) : Except RecountError Shape :=
  match Text.partition? ':' text with
  | none => .error .noColon
  | some (_, rhs) =>
      let alternatives := Text.splitOn ['|'] rhs
      .ok {
        rules := 1
        alternatives := alternatives.length
        symbols := total (alternatives.map symbols)
      }

/-- Componentwise sum of two shapes. -/
def add (left right : Shape) : Shape where
  rules := left.rules + right.rules
  alternatives := left.alternatives + right.alternatives
  symbols := left.symbols + right.symbols

/-- The shape of a list of rule texts, of which blank ones do not count. -/
def rules : List (List Char) → Except RecountError Shape
  | [] => .ok { rules := 0, alternatives := 0, symbols := 0 }
  | chunk :: chunks =>
      if chunk.all Text.isBlank then
        rules chunks
      else do
        let first ← rule chunk
        let others ← rules chunks
        return add first others

end Recount

namespace Shape

/-- The shape of the grammar that a text describes between its section marks. -/
def recount (text : String) : Except RecountError Shape :=
  match Text.splitOn ['%', '%'] text.toList with
  | _ :: body :: _ => Recount.rules (Text.splitOn ['\n', ';'] body)
  | _ => .error .noSection

end Shape

end GrammarCorpus
