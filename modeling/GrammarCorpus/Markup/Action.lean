import GrammarCorpus.Literal.Value
import GrammarCorpus.Markup.Error
import GrammarCorpus.Markup.Style

namespace GrammarCorpus

/-!
# Actions

A tag whose name begins with an at sign gives its text an action. The value of the tag
is a literal, which is handed to the action, or the name of a handler, with or without
a literal in round brackets behind it. On a page without actions nothing is seen of
this, but a value that cannot be read is a mistake.
-/

namespace Markup

/-- Whether a style is an action. -/
def isAction (name : String) : Bool :=
  name.toList.head? = some '@'

/-- Whether a character can stand in the name of a handler. -/
def isInHandler (character : Char) : Bool :=
  Text.isInWord character || character = '.'

/-- What is handed over if nothing is said about it. -/
def nothingHandedOver : List Char :=
  "()".toList

/-- Whether a text stands in round brackets, on a single line. -/
def isInBrackets (text : List Char) : Bool :=
  text.head? = some '(' && text.getLast? = some ')' && !text.contains '\n'

/-- The literal in the value of an action. -/
def literalPart (value : List Char) : List Char :=
  let trimmed := trim value
  let behind := trimmed.dropWhile isInHandler
  if behind = [] then nothingHandedOver
  else if isInBrackets behind then behind
  else trimmed

/-- Checks the value of an action, if it has one. -/
def checkAction (value : List Char) : Except MarkupError Unit :=
  if value = [] then
    .ok ()
  else
    (Literal.check (literalPart value)).mapError
      (.badAction (String.ofList (literalPart value)) (String.ofList value))

example :
    literalPart "app.open(1, 2)".toList = "(1, 2)".toList ∧
      literalPart "open".toList = "()".toList ∧
      literalPart " (1, 2) ".toList = "(1, 2)".toList := by
  decide +kernel

end Markup

end GrammarCorpus
