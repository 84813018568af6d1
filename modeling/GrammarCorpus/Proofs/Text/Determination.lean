import Mathlib.Data.List.Basic

namespace GrammarCorpus

/-!
# Texts that tell where they end

Values are written one behind another, with separators between them. All of them can be told
from the text if each one tells, from what it is written as, which value it is and where it
ends. What may stand behind a value is part of that: a name ends only where no further
character of a name follows.
-/

namespace Text

/-- What is written in front of a rest that may follow determines the value and the rest. -/
def Determines
    {α : Type}
    (write : α → List Char)
    (isValue : α → Prop)
    (mayFollow : List Char → Prop) : Prop :=
  ∀ first, isValue first → ∀ second, isValue second →
    ∀ rest, mayFollow rest → ∀ other, mayFollow other →
      write first ++ rest = write second ++ other → first = second ∧ rest = other

namespace Determines

/-- Joined texts start with the first of them. -/
theorem exists_intercalate_cons (separator text : List Char) (others : List (List Char)) :
    ∃ rest, separator.intercalate (text :: others) = text ++ rest := by
  cases others with
  | nil => exact ⟨[], by simp⟩
  | cons other others =>
      exact ⟨_, by rw [List.intercalate_cons_cons, List.append_assoc]⟩

section Joined

variable {α : Type} {write : α → List Char} {isValue : α → Prop}
variable {mayFollow ends : List Char → Prop} {separator : List Char}
variable (determines : Determines write isValue mayFollow)
variable (separates : ∀ rest, mayFollow (separator ++ rest))
variable (follows : ∀ rest, ends rest → mayFollow rest)
variable (apart : ∀ rest, ends rest → ∀ value, isValue value → ∀ others,
  rest ≠ separator ++ (write value ++ others))

include determines separates follows apart

/-- One value is not written like several. -/
theorem single_ne
    {value found next : α}
    {others : List α}
    {rest other : List Char}
    (holds : isValue value)
    (areFound : ∀ value ∈ found :: next :: others, isValue value)
    (endsRest : ends rest) :
    write value ++ rest ≠
      separator.intercalate ((found :: next :: others).map write) ++ other := by
  intro same
  obtain ⟨behind, starts⟩ := exists_intercalate_cons separator (write next) (others.map write)
  obtain ⟨-, goesOn⟩ := determines value holds found (areFound found List.mem_cons_self)
    rest (follows rest endsRest) (separator ++ (write next ++ (behind ++ other))) (separates _)
    (by simpa [starts] using same)
  exact apart rest endsRest next
    (areFound next (List.mem_cons_of_mem _ List.mem_cons_self)) _ goesOn

/--
Values that are joined by a separator are determined if each of them is, and if what follows
the last one does not look like a separator with a further value behind it.
-/
theorem intercalate :
    Determines
      (fun values => separator.intercalate (values.map write))
      (fun values => values ≠ [] ∧ ∀ value ∈ values, isValue value)
      ends := by
  intro first isFirst second isSecond rest endsRest other endsOther same
  induction first generalizing second with
  | nil => exact absurd rfl isFirst.1
  | cons value later inductionHypothesis =>
      obtain ⟨found, others, rfl⟩ := List.exists_cons_of_ne_nil isSecond.1
      obtain ⟨holds, areLater⟩ := List.forall_mem_cons.1 isFirst.2
      obtain ⟨holdsFound, areOthers⟩ := List.forall_mem_cons.1 isSecond.2
      cases later with
      | nil =>
          cases others with
          | nil =>
              obtain ⟨rfl, rfl⟩ := determines value holds found holdsFound
                rest (follows rest endsRest) other (follows other endsOther) (by simpa using same)
              exact ⟨rfl, rfl⟩
          | cons next others =>
              exact absurd (by simpa using same)
                (single_ne determines separates follows apart holds isSecond.2 endsRest)
      | cons next later =>
          cases others with
          | nil =>
              exact absurd (by simpa using same.symm)
                (single_ne determines separates follows apart holdsFound isFirst.2 endsOther)
          | cons foundNext others =>
              obtain ⟨rfl, goOn⟩ := determines value holds found holdsFound
                (separator ++ (separator.intercalate ((next :: later).map write) ++ rest))
                (separates _)
                (separator ++ (separator.intercalate ((foundNext :: others).map write) ++ other))
                (separates _)
                (by simpa using same)
              obtain ⟨sameLater, sameRest⟩ := inductionHypothesis
                ⟨List.cons_ne_nil _ _, areLater⟩ (foundNext :: others)
                ⟨List.cons_ne_nil _ _, areOthers⟩ (List.append_cancel_left goOn)
              exact ⟨congrArg _ sameLater, sameRest⟩

end Joined

end Determines

end Text

end GrammarCorpus
