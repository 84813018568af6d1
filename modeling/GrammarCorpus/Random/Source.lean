namespace GrammarCorpus

/-!
# Sources of random choices

The generator asks three questions: an integer between two bounds, a position in a
sequence, and several distinct positions in a sequence. A `RandomSource` answers
them from a state, and has no answer when there is nothing to choose from.

A lawful source answers every question that has an answer, and stays inside the
range of the question. Nothing is said about how likely an answer is, so what is
proved of all lawful sources holds for every run of the generator.
-/

/-- A state that answers questions about random choices. -/
class RandomSource (σ : Type) where
  /-- An integer from one bound to the other, both included. -/
  between? (least greatest : Int) : StateM σ (Option Int)
  /-- A position in a sequence of the given length. -/
  position? (length : Nat) : StateM σ (Option Nat)
  /-- Distinct positions in a sequence of the given length, as many as asked for. -/
  positions? (length count : Nat) : StateM σ (Option (List Nat))

/-- A source whose answers lie in the range of the question. -/
class LawfulRandomSource (σ : Type) [RandomSource σ] : Prop where
  /-- Bounds in order are answered by an integer between them. -/
  between?_mem (state : σ) {least greatest : Int} :
    least ≤ greatest →
      ∃ value,
        ((RandomSource.between? least greatest).run state).1 = some value ∧
          least ≤ value ∧ value ≤ greatest
  /-- A sequence that is not empty has a position. -/
  position?_lt (state : σ) {length : Nat} :
    0 < length →
      ∃ position,
        ((RandomSource.position? length).run state).1 = some position ∧
          position < length
  /-- A sequence that is long enough has as many distinct positions. -/
  positions?_nodup (state : σ) {length count : Nat} :
    count ≤ length →
      ∃ positions,
        ((RandomSource.positions? length count).run state).1 = some positions ∧
          positions.length = count ∧
          positions.Nodup ∧
          ∀ position ∈ positions, position < length

end GrammarCorpus
