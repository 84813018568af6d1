import GrammarCorpus.Productivity
import GrammarCorpus.Reachability
import GrammarCorpus.Recount
import GrammarCorpus.Rendering

namespace GrammarCorpus

/-!
# Structural checks

Checks of a single grammar that go beyond reachability and productivity. They look
at the finished grammar alone and know nothing of how it came about.
-/

namespace Grammar

/-- Whether no two alternatives of one rule have the same written form. -/
def hasDistinctAlternatives (grammar : Grammar) : Bool :=
  grammar.rules.all fun rule =>
    (rule.alternatives.map Alternative.text).eraseDups.length =
      rule.alternatives.length

/-- Whether no alternative is the rule's own name and nothing else. -/
def hasNoSelfAlias (grammar : Grammar) : Bool :=
  grammar.rules.all fun rule =>
    rule.alternatives.all fun alternative =>
      alternative.symbols ≠ [.nonterminal rule.lhs]

/--
Whether every text has the expected shape. The first text with another shape, or
without one, decides.
-/
def allHaveShape (expected : Shape) : List String → Except RecountError Bool
  | [] => .ok true
  | text :: texts =>
      match Shape.recount text with
      | .error error => .error error
      | .ok found =>
          if found = expected then allHaveShape expected texts else .ok false

/-- Whether the three dialects have the grammar's own shape, if it has a root. -/
def keepsShape? (grammar : Grammar) : Option (Except RecountError Bool) := do
  let canonical ← grammar.canonical?
  let bison ← grammar.bison?
  let grmtools ← grammar.grmtools?
  return allHaveShape grammar.shape [canonical, bison, grmtools]

end Grammar

end GrammarCorpus
