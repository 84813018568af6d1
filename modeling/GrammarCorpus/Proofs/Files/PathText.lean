import GrammarCorpus.Proofs.Files.Walk

namespace GrammarCorpus

/-!
# Texts that are a single part of a path

Names of classes, sizes and new names hold no slash and no point alone, so a path
that goes on with one of them has it as its last part.
-/

namespace Path

/-- A text that is one part of a path, leads downwards and can be handed over. -/
structure IsName (text : String) : Prop where
  notEmpty : text ≠ ""
  notPoint : text ≠ "."
  notTwoPoints : text ≠ ".."
  noSlash : '/' ∉ text.toList
  noNull : FileWork.holdsNull text = false

/-- Reading a name gives a path with one part. -/
theorem ofText_isName {text : String} (isName : IsName text) :
    ofText text = ⟨.relative, [text]⟩ := by
  have noSlash := isName.noSlash
  have anchorless : text.toList.takeWhile (· = '/') = [] := by
    cases shape : text.toList with
    | nil => rfl
    | cons first rest =>
        rw [shape, List.mem_cons, not_or] at noSlash
        simp [Ne.symm noSlash.1]
  have isPart : Path.isPart text.toList = true := by
    have notPoint : text.toList ≠ ['.'] := by
      intro same
      exact isName.notPoint (String.toList_injective same)
    simp [Path.isPart, notPoint, isName.notEmpty]
  have whole : Text.splitOn ['/'] text.toList = [text.toList] :=
    Text.splitOn_eq_singleton (List.mem_singleton_self '/') noSlash
  simp [ofText, anchorless, Anchor.ofSlashes, whole, isPart]

/-- A path goes on with a name as its last part. -/
theorem child_isName {text : String} (isName : IsName text) (path : Path) :
    path.child text = ⟨path.anchor, path.parts ++ [text]⟩ := by
  simp [child, join, ofText_isName isName]

/-- A text of other characters than slash, point and null is a name, unless it is empty. -/
theorem isName_of_forall
    {text : String}
    (notEmpty : text ≠ "")
    (allowed : ∀ character ∈ text.toList,
      character ≠ '/' ∧ character ≠ '.' ∧ character ≠ Char.ofNat 0) :
    IsName text where
  notEmpty := notEmpty
  notPoint := by
    rintro rfl
    exact (allowed '.' (by decide)).2.1 rfl
  notTwoPoints := by
    rintro rfl
    exact (allowed '.' (by decide)).2.1 rfl
  noSlash := fun member => (allowed _ member).1 rfl
  noNull := by
    rw [← Bool.not_eq_true, FileWork.holdsNull, List.contains_iff_mem]
    exact fun member => (allowed _ member).2.2 rfl

/-- The text of a number holds digits, and perhaps a sign. -/
theorem isDigit_of_mem_toString
    {number : Int}
    {character : Char}
    (member : character ∈ (toString number).toList) :
    character = '-' ∨ character.isDigit = true := by
  have digits : ∀ natural : Nat, character ∈ natural.repr.toList → character.isDigit = true := by
    intro natural inside
    rw [Nat.toList_repr] at inside
    exact Nat.isDigit_of_mem_toDigits (by decide) (by decide) inside
  rw [Int.toString_eq_repr] at member
  cases number with
  | ofNat natural => exact .inr (digits natural member)
  | negSucc natural =>
      simp only [Int.repr, String.toList_append, List.mem_append] at member
      rcases member with sign | digit
      · exact .inl (by simpa using sign)
      · exact .inr (digits _ digit)

/-- The text of a number is a name. -/
theorem isName_toString (number : Int) : IsName (toString number) := by
  refine isName_of_forall ?_ ?_
  · intro empty
    have none := congrArg String.toList empty
    rw [Int.toString_eq_repr] at none
    cases number with
    | ofNat natural => simp [Int.repr, Nat.toList_repr, Nat.toDigits_ne_nil] at none
    | negSucc natural => simp [Int.repr] at none
  · intro character member
    rcases isDigit_of_mem_toString member with rfl | isDigit
    · decide
    · refine ⟨?_, ?_, ?_⟩ <;>
      · rintro rfl
        revert isDigit
        decide

/-- Two texts in a row can be handed over if both can. -/
theorem holdsNull_append (first second : String) :
    FileWork.holdsNull (first ++ second) =
      (FileWork.holdsNull first || FileWork.holdsNull second) := by
  simp [FileWork.holdsNull]

/-- Parts between slashes can be handed over if all of them can. -/
theorem holdsNull_intercalate (parts : List String) :
    FileWork.holdsNull ("/".intercalate parts) = parts.any FileWork.holdsNull := by
  induction parts with
  | nil => decide
  | cons part rest inductionHypothesis =>
      cases rest with
      | nil => simp
      | cons second others =>
          rw [String.intercalate_cons_cons, holdsNull_append, holdsNull_append,
            inductionHypothesis, show FileWork.holdsNull "/" = false by decide,
            Bool.or_false]
          simp only [List.any_cons]

/-- A path can be handed over if all its parts can. -/
theorem holdsNull_text (path : Path) :
    FileWork.holdsNull path.text = path.parts.any FileWork.holdsNull := by
  have anchor : FileWork.holdsNull path.anchor.text = false := by
    cases path.anchor <;> decide
  unfold text
  split
  · rename_i bare
    simp only [Bool.and_eq_true, List.isEmpty_iff] at bare
    rw [bare.2]
    decide
  · rw [holdsNull_append, anchor, Bool.false_or, holdsNull_intercalate]

end Path

end GrammarCorpus
