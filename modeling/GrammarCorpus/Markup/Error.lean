import GrammarCorpus.Literal.Refusal

namespace GrammarCorpus

/-!
# Mistakes in marked-up text
-/

/-- Why a marked-up text cannot be shown. -/
inductive MarkupError where
  /-- A component of a colour has no digits. -/
  | componentMissing
  /-- A tag without a name would close another one, but none is open. -/
  | nothingToClose (position : Nat)
  /-- A tag would close one that is not open. -/
  | notOpen (tag : String) (position : Nat)
  /-- A part of the value of an action is no literal. -/
  | badAction (part value : String) (refusal : Literal.Refusal)
deriving DecidableEq, Repr

namespace MarkupError

/-- The wording of a mistake. -/
def message : MarkupError → String
  | componentMissing => "invalid literal for int() with base 10: ''"
  | nothingToClose position =>
      s!"closing tag '[/]' at position {position} has nothing to close"
  | notOpen tag position =>
      s!"closing tag '{tag}' at position {position} doesn't match any open tag"
  | badAction part value (.mistaken mistake) =>
      s!"error parsing {Text.quoted part} in {Text.quoted value}; {mistake.message}"
  | badAction _ value refusal =>
      s!"error parsing {Text.quoted value}; {refusal.message}"

end MarkupError

end GrammarCorpus
