namespace GrammarCorpus

/-!
# Frontiers of a search

A search over names keeps the names that wait to be expanded and the names it has
not met yet. Meeting a name moves it from the second list to the first, so every
name waits at most once, and each expansion makes the two lists together shorter.
That sum, `Frontier.size`, is the measure by which searches end.
-/

/-- The state of a search over names. -/
structure Frontier where
  waiting : List String
  unseen : List String
deriving DecidableEq, Repr

namespace Frontier

/-- The number of names that wait or have not been met. -/
def size (frontier : Frontier) : Nat :=
  frontier.waiting.length + frontier.unseen.length

/-- Forgets a name that has just been met. -/
def forget (name : String) (unseen : List String) : List String :=
  unseen.filter (· ≠ name)

/-- Meets a name; if it is new, it waits behind all others. -/
def enqueue (frontier : Frontier) (name : String) : Frontier :=
  if name ∈ frontier.unseen then
    { waiting := frontier.waiting ++ [name]
      unseen := forget name frontier.unseen }
  else
    frontier

/-- Meets a name; if it is new, it waits in front of all others. -/
def push (frontier : Frontier) (name : String) : Frontier :=
  if name ∈ frontier.unseen then
    { waiting := name :: frontier.waiting
      unseen := forget name frontier.unseen }
  else
    frontier

/-- Forgetting an unseen name shortens the list. -/
theorem length_forget_lt
    {name : String}
    {unseen : List String}
    (member : name ∈ unseen) :
    (forget name unseen).length < unseen.length :=
  List.length_filter_lt_length_iff_exists.2 ⟨name, member, by simp⟩

/-- Meeting a name at the back does not enlarge a frontier. -/
theorem size_enqueue_le
    (frontier : Frontier)
    (name : String) :
    (frontier.enqueue name).size ≤ frontier.size := by
  by_cases member : name ∈ frontier.unseen
  · have shorter := length_forget_lt member
    simp [enqueue, member, size]
    omega
  · simp [enqueue, member]

/-- Meeting a name at the front does not enlarge a frontier. -/
theorem size_push_le
    (frontier : Frontier)
    (name : String) :
    (frontier.push name).size ≤ frontier.size := by
  by_cases member : name ∈ frontier.unseen
  · have shorter := length_forget_lt member
    simp [push, member, size]
    omega
  · simp [push, member]

/-- Meeting several names at the back does not enlarge a frontier. -/
theorem size_foldl_enqueue_le
    (names : List String)
    (frontier : Frontier) :
    (names.foldl enqueue frontier).size ≤ frontier.size := by
  induction names generalizing frontier with
  | nil =>
      exact Nat.le_refl _
  | cons name names inductionHypothesis =>
      exact Nat.le_trans
        (inductionHypothesis (frontier.enqueue name))
        (size_enqueue_le frontier name)

/-- Meeting several names at the front does not enlarge a frontier. -/
theorem size_foldl_push_le
    (names : List String)
    (frontier : Frontier) :
    (names.foldl push frontier).size ≤ frontier.size := by
  induction names generalizing frontier with
  | nil =>
      exact Nat.le_refl _
  | cons name names inductionHypothesis =>
      exact Nat.le_trans
        (inductionHypothesis (frontier.push name))
        (size_push_le frontier name)

end Frontier

end GrammarCorpus
