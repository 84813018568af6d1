import GrammarCorpus.Markup.PictureTable
import GrammarCorpus.Text.Blank
import GrammarCorpus.Text.Case
import GrammarCorpus.Text.Scan

namespace GrammarCorpus

/-!
# Pictures by name

A name between two colons stands for a picture, if there is one of that name. Behind the
name it can be told whether the picture is to look like a picture or like text, which is
the business of a selector behind it.
-/

namespace Markup

/-- The picture of a name among names and pictures in turn. -/
def pictureAmong? (name : List Char) : List (List Char) → Option (List Char)
  | other :: picture :: rest =>
      if other = name then some picture else pictureAmong? name rest
  | _ => none

/-- The picture of a name in lower case. -/
def picture? (name : List Char) : Option (List Char) :=
  pictureTable.findSome? fun line => pictureAmong? name (Text.splitOn [' '] line.toList)

/-- The endings of names that ask for a look, with the selectors for it. -/
def looks : List (List Char × Char) :=
  [("-emoji".toList, Char.ofNat 0xfe0f), ("-text".toList, Char.ofNat 0xfe0e)]

/-- A name without an ending that asks for a look, and the selector for that. -/
def splitLook (name : List Char) : List Char × List Char :=
  match looks.find? fun look => look.1.isSuffixOf name with
  | some (ending, selector) => (name.take (name.length - ending.length), [selector])
  | none => (name, [])

/-- What stands for the name between two colons; an unknown name stays as it is. -/
def pictureOr (name : List Char) : List Char :=
  let (name', selector) := splitLook name
  match picture? (Text.lowerCase name') with
  | some picture => picture ++ selector
  | none => [':'] ++ name ++ [':']

/-- The name that begins a text, if a colon follows it. -/
def nameInFront? (characters : List Char) : Option (List Char) :=
  let isInName (character : Char) : Bool := character ≠ ':' && !Text.isBlank character
  if (characters.dropWhile isInName).head? = some ':' then
    some (characters.takeWhile isInName)
  else
    none

/-- Puts pictures in place of their names when `pending` characters are passed over first. -/
def drawFrom : Nat → List Char → List Char
  | _, [] => []
  | pending + 1, _ :: rest => drawFrom pending rest
  | 0, character :: rest =>
      match if character = ':' then nameInFront? rest else none with
      | some name => pictureOr name ++ drawFrom (name.length + 1) rest
      | none => character :: drawFrom 0 rest

/-- Puts pictures in place of their names. -/
def draw (characters : List Char) : List Char :=
  drawFrom 0 characters

end Markup

end GrammarCorpus
