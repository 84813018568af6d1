import GrammarCorpus.Frontier
import GrammarCorpus.Grammar

namespace GrammarCorpus

/-!
# Reachable names

A set of names is a list here, and only membership counts. `Reachability.extend`
collects the names that alternatives mention. `Grammar.reachesItsRules` decides
whether the names that can be reached from the root in one or more steps are
exactly the left-hand sides of the other rules; where a name has several rules,
the first one speaks for it.
-/

namespace Reachability

/-- The known names together with all that the alternatives mention. -/
def extend (alternatives : List Alternative) (known : List String) : List String :=
  (alternatives.flatMap Alternative.nonterminals).foldl
    (fun names name => names.insert name) known

/-- The names that have not been reached. -/
def unreached (names reached : List String) : List String :=
  names.filter fun name => !reached.contains name

/-- Whether two lists have the same members. -/
def sameNames (left right : List String) : Bool :=
  left.all right.contains && right.all left.contains

end Reachability

namespace Grammar

/--
Expands the waiting names, the latest first, and returns the names never met. The
search stops without a result at a name that has no rule. The names of one rule
are met in the order that `arrange` puts them into.
-/
def unmet?
    (grammar : Grammar)
    (arrange : List String → List String) :
    Frontier → Option (List String)
  | { waiting := [], unseen } => some unseen
  | { waiting := name :: rest, unseen } =>
      match grammar.rule? name with
      | none => none
      | some rule =>
          let names := arrange rule.nonterminals.eraseDups
          unmet? grammar arrange
            (names.foldl Frontier.push { waiting := rest, unseen })
termination_by frontier => frontier.size
decreasing_by
  refine Nat.lt_of_le_of_lt (Frontier.size_foldl_push_le _ _) ?_
  simp [Frontier.size]

/--
Whether exactly the rules behind the root can be reached from the root. A grammar
without rules has no root to start from.
-/
def reachesItsRules?
    (grammar : Grammar)
    (arrange : List String → List String) :
    Option Bool :=
  grammar.root?.map fun root =>
    match grammar.unmet? arrange { waiting := [root.lhs], unseen := grammar.mentioned } with
    | none => false
    | some unmet =>
        Reachability.sameNames
          (Reachability.unreached grammar.mentioned unmet)
          (grammar.names.drop 1)

end Grammar

end GrammarCorpus
