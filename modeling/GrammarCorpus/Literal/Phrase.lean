import GrammarCorpus.Literal.Lexeme
import GrammarCorpus.Literal.Tree

namespace GrammarCorpus

/-!
# Phrases of expressions

An expression is built from phrases. What a phrase looks like is told by a pattern: a
list of choices, of which the first that fits counts. A choice is a row of parts, and
what is made of their trees.

Some patterns tell what wrong phrases look like. A choice that complains is tried only
when it is known that the text is wrong.
-/

namespace Literal

/-- The phrases, and after them those that are wrong. -/
inductive Phrase where
  | literal
  | inserted
  | expressions
  | expression
  | bareExpression
  | yielding
  | starExpressions
  | starExpression
  | namedItems
  | namedItem
  | naming
  | namedExpression
  | disjunction
  | conjunction
  | inversion
  | comparison
  | comparand
  | bitOr
  | bitXor
  | bitAnd
  | shift
  | sum
  | product
  | factor
  | power
  | awaiting
  | primary
  | atom
  | quotations
  | group
  | tuple
  | setDisplay
  | dictionary
  | entries
  | entry
  | pair
  | loops
  | loop
  | generator
  | setComprehension
  | dictionaryComprehension
  | arguments
  | argumentList
  | keywordArguments
  | starredArgument
  | keywordOrStarred
  | keywordOrSpread
  | targets
  | target
  | plainTarget
  | targetAtom
  | targetTuple
  | targetPrimary
  | function
  | parameters
  | parameterList
  | plainBeforeSlash
  | defaultsBeforeSlash
  | starParameters
  | doubleStarParameter
  | plainParameter
  | defaultParameter
  | anyParameter
  | defaultValue
  | wrongExpression
  | wrongCall
  | wrongNaming
  | wrongGroup
  | wrongComprehension
  | wrongDictionaryComprehension
  | wrongTarget
  | wrongArguments
  | wrongKeyword
  | wrongEntries
  | wrongEntry
  | wrongParameters
  | wrongStarParameters
  | wrongDoubleStarParameter
  | wrongDefault
deriving DecidableEq, Hashable, Repr

/-- The parts that the choices of a pattern consist of. -/
inductive Part where
  /-- A sign or a word with a meaning of its own, which leaves no tree. -/
  | sign (text : String)
  | lexeme (kind : Kind)
  /-- A name that has a meaning in other places. -/
  | softWord
  /-- Quotations next to each other, which are one value. -/
  | quotations
  | phrase (phrase : Phrase)
  | either (options : List (List Part))
  | optional (parts : List Part)
  | many (parts : List Part)
  | atLeastOne (parts : List Part)
  /-- At least one, with commas between them. -/
  | separated (parts : List Part)
  | ahead (parts : List Part)
  | notAhead (parts : List Part)
  /-- No other choice is tried behind this point. -/
  | commit

instance : Coe String Part where
  coe := .sign

instance : Coe Phrase Part where
  coe := .phrase

/-- What becomes of a choice that fits. -/
inductive Outcome where
  | give (tree : Tree)
  | complain (mistake : Mistake)
  /-- The phrase is taken for missing, and no other choice is tried. -/
  | refuse

/-- A choice of a pattern. -/
structure Choice where
  parts : List Part
  complains : Bool
  /-- What is made of the trees, when so many brackets are open behind the last lexeme. -/
  outcome : Nat → List Tree → Outcome

/-- The pattern of a phrase. -/
structure Pattern where
  choices : List Choice
  /-- What can follow a phrase to make a longer one of the same kind. -/
  steps : List Choice := []
  /-- Whether it is remembered what has been found at a place. -/
  isRemembered : Bool := false
  /-- Whether nothing is complained about inside. -/
  isQuiet : Bool := false

namespace Choice

/-- Some parts whose trees are put together. -/
def make (parts : List Part) (build : List Tree → Tree) : Choice where
  parts
  complains := false
  outcome _ trees := .give (build trees)

/-- Some parts of which only the first tree is of interest. -/
def pass (parts : List Part) : Choice :=
  make parts fun trees => trees.headD .other

/-- Some parts that are judged by the brackets around them and by their trees. -/
def judgeInside (parts : List Part) (outcome : Nat → List Tree → Outcome) : Choice where
  parts
  complains := false
  outcome

/-- Some parts that are judged by their trees. -/
def judge (parts : List Part) (outcome : List Tree → Outcome) : Choice :=
  judgeInside parts fun _ => outcome

/-- Some parts that are always wrong. -/
def wrong (parts : List Part) (mistake : Mistake) : Choice :=
  judge parts fun _ => .complain mistake

/-- A wrong phrase in place of the right one. -/
def complaint (phrase : Phrase) : Choice :=
  { pass [phrase] with complains := true }

end Choice

end Literal

end GrammarCorpus
