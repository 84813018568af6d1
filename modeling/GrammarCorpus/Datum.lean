import GrammarCorpus.Binary64.Decimal
import GrammarCorpus.Text.Quoted

namespace GrammarCorpus

/-!
# Untyped data

Descriptions of grammars arrive as untyped data: nothing, truth values, numbers,
texts, lists and records. Names of symbols and rules have to be texts. A report
about data of another kind shows the data in one line, with texts quoted and
numbers in full.
-/

/-- A piece of untyped data. -/
inductive Datum where
  | nothing
  | truth (value : Bool)
  | integer (value : Int)
  | real (value : Binary64)
  | text (value : String)
  | list (items : List Datum)
  | record (fields : List (String × Datum))

mutual

/-- Shows data in one line. -/
def Datum.display : Datum → String
  | .nothing => "None"
  | .truth true => "True"
  | .truth false => "False"
  | .integer value => toString value
  | .real value => value.text
  | .text value => Text.quoted value
  | .list items => "[" ++ ", ".intercalate (Datum.displayItems items) ++ "]"
  | .record fields => "\x7b" ++ ", ".intercalate (Datum.displayFields fields) ++ "\x7d"

/-- Shows the items of a list. -/
def Datum.displayItems : List Datum → List String
  | [] => []
  | item :: items => item.display :: Datum.displayItems items

/-- Shows the fields of a record, each behind its quoted key. -/
def Datum.displayFields : List (String × Datum) → List String
  | [] => []
  | (key, value) :: fields =>
      (Text.quoted key ++ ": " ++ value.display) :: Datum.displayFields fields

end

/-- The places of a grammar that hold a name. -/
inductive NamePlace where
  | terminal
  | nonterminal
  | lhs

/-- A name was expected, and the data is not a text. -/
structure NameError where
  place : NamePlace
  found : Datum

namespace NameError

/-- The wording of the complaint. -/
def message (error : NameError) : String :=
  let place :=
    match error.place with
    | .terminal => "terminal name"
    | .nonterminal => "nonterminal name"
    | .lhs => "rule lhs"
  place ++ " must be a str, got " ++ error.found.display

end NameError

namespace Datum

/-- The name that the data holds. -/
def name (place : NamePlace) : Datum → Except NameError String
  | .text value => .ok value
  | other => .error { place := place, found := other }

end Datum

end GrammarCorpus
