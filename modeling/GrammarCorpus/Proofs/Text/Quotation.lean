import GrammarCorpus.Proofs.Text.Splitting

namespace GrammarCorpus

/-!
# Texts between pairs of marks

The first mark of a text opens a quotation and the second one closes it, and so on in turn. A
text in which every quotation is closed adds its own quotations to those of what follows, so
quotations are found piece by piece along the way a text is put together.
-/

namespace Text

/-- The pieces at odd positions, as far as another piece follows. -/
def enclosed : List (List Char) → List (List Char)
  | _ :: inside :: behind :: rest => inside :: enclosed (behind :: rest)
  | _ => []

/-- The texts between the first mark and the second, the third and the fourth, and so on. -/
def quotedBy (mark : Char) (characters : List Char) : List (List Char) :=
  enclosed (splitOn [mark] characters)

/-- A text that quotes some texts in front of whatever follows. -/
def Encloses (mark : Char) (characters : List Char) (quoted : List (List Char)) : Prop :=
  ∀ rest, quotedBy mark (characters ++ rest) = quoted ++ quotedBy mark rest

example : quotedBy '"' "a\"b\" \"\"\"c".toList = [['b'], []] := by decide

/-- What stands in front of the first mark is not enclosed. -/
theorem enclosed_cons_congr (first other : List Char) (pieces : List (List Char)) :
    enclosed (first :: pieces) = enclosed (other :: pieces) := by
  cases pieces with
  | nil => rfl
  | cons inside pieces => cases pieces <;> rfl

namespace Encloses

variable {mark : Char} {first second characters : List Char} {quoted others : List (List Char)}

/-- An empty text quotes nothing. -/
theorem nil : Encloses mark [] [] :=
  fun _ => rfl

/-- Texts that close their quotations quote one after the other. -/
theorem append
    (isFirst : Encloses mark first quoted)
    (isSecond : Encloses mark second others) :
    Encloses mark (first ++ second) (quoted ++ others) := by
  intro rest
  rw [List.append_assoc, isFirst, isSecond, List.append_assoc]

/-- A text without the mark quotes nothing. -/
theorem of_notMem (absent : mark ∉ characters) : Encloses mark characters [] := by
  intro rest
  obtain ⟨piece, pieces, split⟩ := exists_splitOn [mark] rest
  rw [quotedBy, quotedBy, splitOn_append_of_notMem absent split, split]
  exact enclosed_cons_congr _ _ _

/-- A text without the mark between two of them is quoted. -/
theorem of_quotation (absent : mark ∉ characters) :
    Encloses mark (mark :: (characters ++ [mark])) [characters] := by
  intro rest
  obtain ⟨piece, pieces, split⟩ := exists_splitOn [mark] rest
  rw [quotedBy, quotedBy, List.cons_append, splitOn_cons_self, List.append_assoc,
    List.singleton_append, splitOn_append_cons, splitOn_eq_singleton List.mem_cons_self absent,
    split]
  rfl

/-- Texts with a separator between them quote one after the other, if the separator does not. -/
theorem intercalate
    {α : Type}
    (separator : List Char)
    {text : α → List Char}
    {quotes : α → List (List Char)}
    {items : List α}
    (absent : mark ∉ separator)
    (each : ∀ item ∈ items, Encloses mark (text item) (quotes item)) :
    Encloses mark (separator.intercalate (items.map text)) (items.flatMap quotes) := by
  induction items with
  | nil => exact nil
  | cons item items inductionHypothesis =>
      obtain ⟨isFirst, areOthers⟩ := List.forall_mem_cons.1 each
      cases items with
      | nil => simpa using isFirst
      | cons next items =>
          rw [List.map_cons, List.map_cons, List.intercalate_cons_cons, List.flatMap_cons,
            ← List.map_cons]
          have separated := isFirst.append (of_notMem absent)
          rw [List.append_nil] at separated
          exact separated.append (inductionHypothesis areOthers)

/-- What a text quotes by itself. -/
theorem quotedBy_eq (encloses : Encloses mark characters quoted) :
    quotedBy mark characters = quoted := by
  have alone := encloses []
  rwa [List.append_nil, show quotedBy mark [] = [] from rfl, List.append_nil] at alone

end Encloses

end Text

end GrammarCorpus
