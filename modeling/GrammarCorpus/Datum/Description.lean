import GrammarCorpus.Datum
import GrammarCorpus.Grammar

namespace GrammarCorpus

/-!
# Descriptions of grammars

A grammar is described by data: a list of rules, each a left-hand side with a list of
alternatives, each of them a list of symbols. A symbol is a record with one field,
which tells its kind and holds its name.

Names are read in the order of the text, except that the name of a rule comes behind
its alternatives; the first one that is no text is reported.
-/

/-- Why data describe no grammar. -/
inductive DescriptionError where
  /-- Some name is no text. -/
  | name (error : NameError)
  /-- The data have another form. -/
  | form

namespace Datum

/-- The value of a field. -/
def field? : Datum → String → Option Datum
  | .record fields, key => fields.lookup key
  | _, _ => none

/-- The items of a list. -/
def items? : Datum → Option (List Datum)
  | .list items => some items
  | _ => none

/-- The name that the data holds, or else the first name that is none. -/
def describedName (place : NamePlace) (datum : Datum) : Except DescriptionError String :=
  (datum.name place).mapError .name

/-- Reads every item of a list. -/
def describedItems {α : Type} (datum : Datum) (read : Datum → Except DescriptionError α) :
    Except DescriptionError (List α) :=
  match datum with
  | .list items => items.mapM read
  | _ => .error .form

end Datum

namespace Symbol

/-- The symbol that is described. -/
def ofDatum (datum : Datum) : Except DescriptionError Symbol :=
  match datum.field? "t", datum.field? "n" with
  | some name, _ => (name.describedName .terminal).map .terminal
  | none, some name => (name.describedName .nonterminal).map .nonterminal
  | none, none => .error .form

/-- The description of a symbol. -/
def toDatum : Symbol → Datum
  | terminal name => .record [("t", .text name)]
  | nonterminal name => .record [("n", .text name)]

end Symbol

namespace Alternative

/-- The alternative that is described. -/
def ofDatum (datum : Datum) : Except DescriptionError Alternative := do
  let symbols ← datum.describedItems Symbol.ofDatum
  return { symbols }

/-- The description of an alternative. -/
def toDatum (alternative : Alternative) : Datum :=
  .list (alternative.symbols.map Symbol.toDatum)

end Alternative

namespace Rule

/-- The rule that is described. -/
def ofDatum (datum : Datum) : Except DescriptionError Rule :=
  match datum with
  | .list [lhs, alternatives] => do
      let alternatives ← alternatives.describedItems Alternative.ofDatum
      let lhs ← lhs.describedName .lhs
      return { lhs, alternatives }
  | _ => .error .form

/-- The description of a rule. -/
def toDatum (rule : Rule) : Datum :=
  .list [.text rule.lhs, .list (rule.alternatives.map Alternative.toDatum)]

end Rule

namespace Grammar

/-- The grammar that is described. -/
def ofDatum (datum : Datum) : Except DescriptionError Grammar := do
  let rules ← datum.describedItems Rule.ofDatum
  return { rules }

/-- The description of a grammar. -/
def toDatum (grammar : Grammar) : Datum :=
  .list (grammar.rules.map Rule.toDatum)

end Grammar

end GrammarCorpus
