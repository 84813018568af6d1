import GrammarCorpus.Literal.Mistake

namespace GrammarCorpus

/-!
# Expressions

The tree of an expression keeps what has to be known of it: whether it writes a value,
and what it is called if something is assigned to it. Subscripts and lists do not occur,
since square brackets end a tag.
-/

namespace Literal

/-- The words that are values. -/
inductive Constant where
  | none
  | false
  | true
  | ellipsis
deriving DecidableEq, Repr

/-- An expression, or a part of one. -/
inductive Tree where
  | name (text : String)
  | number (isImaginary : Bool)
  | text
  | bytes
  | constant (constant : Constant)
  /-- A text with insertions. -/
  | formatted
  | tuple (items : List Tree)
  | set (items : List Tree)
  | dictionary (entries : List Tree)
  | call (function arguments : Tree)
  /-- A sign in front of an operand. -/
  | signed (operand : Tree)
  /-- The sum or the difference of two operands. -/
  | sum (left right : Tree)
  /-- Any other operation. -/
  | operation
  /-- A comparison; `isIn` tells whether the first one asks for a member. -/
  | comparison (left : Tree) (isIn : Bool)
  | member
  | starred (operand : Tree)
  | function
  | generator
  | setComprehension
  | dictionaryComprehension
  | yield
  | await
  | conditional
  | namedExpression
  /-- Parts of expressions: the arguments of a call, and the entries of a dictionary. -/
  | arguments (items : List Tree)
  | keyword
  | spread
  | entry (key value : Tree)
  /-- Whatever need not be known. -/
  | other
deriving Repr

namespace Constant

/-- What a constant is called. -/
def text : Constant → String
  | none => "None"
  | false => "False"
  | true => "True"
  | ellipsis => "ellipsis"

end Constant

namespace Tree

/-- What an expression is called when something is assigned to it. -/
def description : Tree → String
  | name _ => "name"
  | number _ | text | bytes => "literal"
  | constant value => value.text
  | formatted => "f-string expression"
  | tuple _ => "tuple"
  | set _ => "set display"
  | dictionary _ => "dict literal"
  | call _ _ => "function call"
  | signed _ | sum _ _ | operation => "expression"
  | comparison _ _ => "comparison"
  | member => "attribute"
  | starred _ => "starred"
  | function => "lambda"
  | generator => "generator expression"
  | setComprehension => "set comprehension"
  | dictionaryComprehension => "dict comprehension"
  | yield => "yield expression"
  | await => "await expression"
  | conditional => "conditional expression"
  | namedExpression => "named expression"
  | arguments _ | keyword | spread | entry _ _ | other => "expression"

mutual

/-- The part of an expression that cannot be the target of a loop. -/
def wrongTarget? : Tree → Option Tree
  | tuple items => firstWrongTarget? items
  | starred operand => operand.wrongTarget?
  | comparison left isIn => if isIn then left.wrongTarget? else none
  | name _ | member => none
  | tree => some tree

/-- The first part of some expressions that cannot be the target of a loop. -/
def firstWrongTarget? : List Tree → Option Tree
  | [] => none
  | item :: items => item.wrongTarget?.or (firstWrongTarget? items)

end

/-- Whether an argument is given by position. -/
def isPositional : Tree → Bool
  | keyword | spread => false
  | _ => true

/-- The arguments that a tree stands for. -/
def argumentList : Tree → List Tree
  | arguments items => items
  | tree => [tree]

end Tree

end Literal

end GrammarCorpus
