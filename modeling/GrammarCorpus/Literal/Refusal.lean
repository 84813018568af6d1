import GrammarCorpus.Literal.Mistake

namespace GrammarCorpus

/-!
# Refusals of literals
-/

namespace Literal

/-- Why a text is no literal. -/
inductive Refusal where
  /-- The text is no expression. -/
  | mistaken (mistake : Mistake)
  | unhashable (kind : String)
  /-- The expression is no value. -/
  | malformed
  /-- A dictionary takes in the entries of another one. -/
  | malformedEntry
deriving DecidableEq, Repr

namespace Refusal

/-- The wording of a refusal. -/
def message : Refusal → String
  | mistaken mistake => mistake.message
  | unhashable kind => s!"unhashable type: {Text.quoted kind}"
  | malformed => "malformed node or string"
  | malformedEntry => "malformed node or string: None"

end Refusal

end Literal

end GrammarCorpus
