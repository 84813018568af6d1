namespace GrammarCorpus

/-!
# Totals of counts

The total of a list of counts adds up along appended lists.
-/

/-- All counts of a list added up. -/
def total (counts : List Nat) : Nat :=
  counts.foldr (· + ·) 0

/-- There is nothing to add up in an empty list. -/
@[simp] theorem total_nil :
    total [] = 0 := rfl

/-- The first count is added to the total of the others. -/
@[simp] theorem total_cons (count : Nat) (counts : List Nat) :
    total (count :: counts) = count + total counts := rfl

/-- Totals of appended lists add up. -/
@[simp] theorem total_append (left right : List Nat) :
    total (left ++ right) = total left + total right := by
  induction left with
  | nil => simp
  | cons count counts inductionHypothesis =>
      simp [inductionHypothesis, Nat.add_assoc]

end GrammarCorpus
