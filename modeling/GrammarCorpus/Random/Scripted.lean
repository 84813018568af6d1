import GrammarCorpus.Random.Source

namespace GrammarCorpus

/-!
# Prescribed integers

A source can be made to answer questions for integers from a list, whatever the
bounds, until the list is used up. Positions are drawn as before.
-/

/-- A source with integers prescribed for its next questions. -/
structure Scripted (σ : Type) where
  integers : List Int
  source : σ

namespace Scripted

/-- Asks the source itself. -/
def ask {σ α : Type} (question : StateM σ α) : StateM (Scripted σ) α := fun state =>
  let (answer, source) := question.run state.source
  (answer, { state with source })

end Scripted

instance {σ : Type} [RandomSource σ] : RandomSource (Scripted σ) where
  between? least greatest := fun state =>
    match state.integers with
    | integer :: integers => (some integer, { state with integers })
    | [] => (Scripted.ask (RandomSource.between? least greatest)).run state
  position? length := Scripted.ask (RandomSource.position? length)
  positions? length count := Scripted.ask (RandomSource.positions? length count)

end GrammarCorpus
