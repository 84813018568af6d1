import GrammarCorpus.Grammar

namespace GrammarCorpus

/-!
# Productive names

A name is productive when one of its alternatives holds only terminals and
productive names. The rules behind the root are swept again and again; a sweep
drops every rule whose name is known to be productive, and the sweeps end with
the first one that finds no further name. The root rule takes no part.
-/

namespace Productivity

/-- Whether a symbol derives terminals, given the names known to be productive. -/
def supports (known : List String) : Symbol → Bool
  | .terminal _ => true
  | .nonterminal name => known.contains name

/-- Whether one alternative of a rule holds supported symbols only. -/
def justifies (known : List String) (rule : Rule) : Bool :=
  rule.alternatives.any fun alternative =>
    alternative.symbols.all (supports known)

/--
One sweep over the rules. The result holds the rules that are still open, and the
known names; a name found on the way counts at once.
-/
def sweep (known : List String) : List Rule → List Rule × List String
  | [] => ([], known)
  | rule :: rules =>
      if known.contains rule.lhs then
        sweep known rules
      else if justifies known rule then
        sweep (rule.lhs :: known) rules
      else
        let swept := sweep known rules
        (rule :: swept.1, swept.2)

/-- Every name that a sweep finds closes a rule. -/
theorem length_sweep_le
    (known : List String)
    (rules : List Rule) :
    (sweep known rules).1.length + (sweep known rules).2.length ≤
      rules.length + known.length := by
  induction rules generalizing known with
  | nil =>
      simp [sweep]
  | cons rule rules inductionHypothesis =>
      simp only [sweep]
      split
      · have shorter := inductionHypothesis known
        simp only [List.length_cons]
        omega
      · split
        · have shorter := inductionHypothesis (rule.lhs :: known)
          simp only [List.length_cons] at shorter ⊢
          omega
        · have shorter := inductionHypothesis known
          simp only [List.length_cons]
          omega

/-- The outcome of all sweeps. -/
structure Settled where
  names : List String
  sweeps : Nat
deriving DecidableEq, Repr

/-- Sweeps until a sweep finds nothing, counting from the sweeps made before. -/
def settle (rules : List Rule) (known : List String) (before : Nat) : Settled :=
  if _grown : known.length < (sweep known rules).2.length then
    settle (sweep known rules).1 (sweep known rules).2 (before + 1)
  else
    { names := (sweep known rules).2, sweeps := before + 1 }
termination_by rules.length
decreasing_by
  have shorter := length_sweep_le known rules
  omega

end Productivity

namespace Grammar

/-- The outcome of the sweeps over the rules behind the root. -/
def settled (grammar : Grammar) : Productivity.Settled :=
  Productivity.settle (grammar.rules.drop 1) [] 0

/-- The names that the rules behind the root prove productive. -/
def productive (grammar : Grammar) : List String :=
  grammar.settled.names

/-- Whether every rule behind the root has a productive name. -/
def isProductive (grammar : Grammar) : Bool :=
  (grammar.names.drop 1).all grammar.productive.contains

end Grammar

end GrammarCorpus
