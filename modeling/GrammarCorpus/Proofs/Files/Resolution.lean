import GrammarCorpus.Proofs.Files.PathReading
import Mathlib.Logic.Relation

namespace GrammarCorpus

/-!
# Two points without a file tree

Two points take back the name in front of them, and at the root they take back nothing. Taking
back as long as there are two points always comes to the same parts, in whatever order it is
done: `Path.ResolvesTo` relates the parts of a path to them, and `Path.collapse` finds them for
every path from the root. What it has found it leaves as it is, and the text of it is read as
the path it was written from.
-/

namespace Path

/-- Two points and the name in front of them go, or two points right behind the root. -/
inductive TakesBack : List String → List String → Prop where
  | name
      {before after : List String}
      {part : String}
      (notTwoPoints : part ≠ "..") :
      TakesBack (before ++ part :: ".." :: after) (before ++ after)
  | root (after : List String) : TakesBack (".." :: after) after

/-- What parts come to where two points are taken back until none are left. -/
structure ResolvesTo (parts resolved : List String) : Prop where
  steps : Relation.ReflTransGen TakesBack parts resolved
  noTwoPoints : ".." ∉ resolved

section Stacks

variable {anchor : Anchor} {stack parts others : List String} {part : String}

/-- A part that does not turn back comes on top. -/
theorem collapseOnto_name (notTwoPoints : part ≠ "..") :
    collapseOnto anchor stack part = part :: stack :=
  if_neg notTwoPoints

/-- Behind the root, two points take off what is on top. -/
theorem collapseOnto_twoPoints
    (absolute : anchor ≠ .relative)
    (noTwoPoints : ".." ∉ stack) :
    collapseOnto anchor stack ".." = stack.tail := by
  cases stack with
  | nil => simp [collapseOnto, absolute]
  | cons last before =>
      have notTwoPoints : last ≠ ".." := fun same => noTwoPoints (same ▸ List.mem_cons_self)
      simp [collapseOnto, notTwoPoints]

/-- Parts that do not turn back are all kept. -/
theorem foldl_collapseOnto_of_notMem (noTwoPoints : ".." ∉ parts) :
    parts.foldl (collapseOnto anchor) stack = parts.reverse ++ stack := by
  induction parts generalizing stack with
  | nil => rfl
  | cons part rest inductionHypothesis =>
      rw [List.mem_cons, not_or] at noTwoPoints
      rw [List.foldl_cons, collapseOnto_name (Ne.symm noTwoPoints.1),
        inductionHypothesis noTwoPoints.2]
      simp

/-- The parts on the stack and those to come are taken back to what ends up on the stack. -/
theorem foldl_collapseOnto_resolves
    (absolute : anchor ≠ .relative)
    (noTwoPoints : ".." ∉ stack) :
    ResolvesTo (stack.reverse ++ parts) (parts.foldl (collapseOnto anchor) stack).reverse := by
  induction parts generalizing stack with
  | nil =>
      refine ⟨?_, by simpa using noTwoPoints⟩
      rw [List.append_nil]
      exact .refl
  | cons part rest inductionHypothesis =>
      rw [List.foldl_cons]
      by_cases same : part = ".."
      · subst same
        rw [collapseOnto_twoPoints absolute noTwoPoints]
        have step : TakesBack (stack.reverse ++ ".." :: rest) (stack.tail.reverse ++ rest) := by
          cases stack with
          | nil => exact .root rest
          | cons last before =>
              rw [List.reverse_cons, List.append_assoc]
              exact .name fun same => noTwoPoints (same ▸ List.mem_cons_self)
        have later := inductionHypothesis fun member => noTwoPoints (List.mem_of_mem_tail member)
        exact ⟨.head step later.steps, later.noTwoPoints⟩
      · rw [collapseOnto_name same]
        have onTop : ".." ∉ part :: stack := by simp [Ne.symm same, noTwoPoints]
        have later := inductionHypothesis onTop
        rwa [List.reverse_cons, List.append_assoc] at later

/-- Taking back does not change what ends up on the stack. -/
theorem foldl_collapseOnto_eq_of_takesBack
    (absolute : anchor ≠ .relative)
    (step : TakesBack parts others) :
    parts.foldl (collapseOnto anchor) [] = others.foldl (collapseOnto anchor) [] := by
  cases step with
  | @name before after part notTwoPoints =>
      have noTwoPoints : ".." ∉ before.foldl (collapseOnto anchor) [] := by
        have resolved : ResolvesTo ([].reverse ++ before) _ :=
          foldl_collapseOnto_resolves absolute List.not_mem_nil
        simpa using resolved.noTwoPoints
      have onTop : ".." ∉ part :: before.foldl (collapseOnto anchor) [] := by
        simp [Ne.symm notTwoPoints, noTwoPoints]
      rw [List.foldl_append, List.foldl_append, List.foldl_cons, List.foldl_cons,
        collapseOnto_name notTwoPoints, collapseOnto_twoPoints absolute onTop, List.tail_cons]
  | root =>
      rw [List.foldl_cons, collapseOnto_twoPoints absolute List.not_mem_nil, List.tail_nil]

/-- Nor does taking back again and again. -/
theorem foldl_collapseOnto_eq_of_steps
    (absolute : anchor ≠ .relative)
    (steps : Relation.ReflTransGen TakesBack parts others) :
    parts.foldl (collapseOnto anchor) [] = others.foldl (collapseOnto anchor) [] := by
  induction steps with
  | refl => rfl
  | tail _ step inductionHypothesis =>
      rw [inductionHypothesis, foldl_collapseOnto_eq_of_takesBack absolute step]

/-- Taking back leaves no other parts than those that were there. -/
theorem TakesBack.subset (step : TakesBack parts others) : others ⊆ parts := by
  cases step with
  | name _ =>
      refine List.append_subset.2 ⟨List.subset_append_left _ _, ?_⟩
      exact fun part member => List.mem_append_right _ (by simp [member])
  | root => exact List.subset_cons_self _ _

/-- What parts come to are some of them. -/
theorem ResolvesTo.subset (resolves : ResolvesTo parts others) : others ⊆ parts := by
  obtain ⟨steps, -⟩ := resolves
  induction steps with
  | refl => exact fun _ member => member
  | tail _ step inductionHypothesis =>
      exact fun _ member => inductionHypothesis (step.subset member)

end Stacks

variable {path : Path} {resolved : List String}

/-- From the root on, two points are always taken back to the same parts. -/
theorem resolvesTo_iff (absolute : path.anchor ≠ .relative) :
    ResolvesTo path.parts resolved ↔ resolved = path.collapse.parts := by
  constructor
  · rintro ⟨steps, noTwoPoints⟩
    rw [collapse, foldl_collapseOnto_eq_of_steps absolute steps,
      foldl_collapseOnto_of_notMem noTwoPoints, List.append_nil, List.reverse_reverse]
  · rintro rfl
    exact foldl_collapseOnto_resolves absolute List.not_mem_nil

/-- A path without two points is as it should be. -/
theorem collapse_of_notMem (noTwoPoints : ".." ∉ path.parts) : path.collapse = path := by
  rw [collapse, foldl_collapseOnto_of_notMem noTwoPoints, List.append_nil, List.reverse_reverse]

/-- A path from the root is written as its slashes and its parts. -/
theorem text_of_absolute (absolute : path.anchor ≠ .relative) :
    path.text = path.anchor.text ++ "/".intercalate path.parts := by
  rw [text, if_neg (by simp [absolute])]

/-- Names between slashes are read as these names. -/
theorem partsOf_intercalate
    {names : List String}
    (areNames : ∀ name ∈ names, IsName name) :
    partsOf ("/".intercalate names).toList = names := by
  induction names with
  | nil => rfl
  | cons name others inductionHypothesis =>
      obtain ⟨isName, areOthers⟩ := List.forall_mem_cons.1 areNames
      cases others with
      | nil => rw [String.intercalate_singleton, partsOf_name isName]
      | cons other others =>
          have whole : ("/".intercalate (name :: other :: others)).toList =
              name.toList ++ '/' :: ("/".intercalate (other :: others)).toList := by
            simp [String.intercalate_cons_cons]
          rw [whole, partsOf_append_cons, partsOf_name isName, inductionHypothesis areOthers]
          rfl

/-- No slash stands in front of names between slashes. -/
theorem head?_intercalate_ne
    {names : List String}
    (areNames : ∀ name ∈ names, IsName name) :
    ("/".intercalate names).toList.head? ≠ some '/' := by
  cases names with
  | nil => simp
  | cons name others =>
      obtain ⟨isName, -⟩ := List.forall_mem_cons.1 areNames
      obtain ⟨first, rest, shape⟩ : ∃ first rest, name.toList = first :: rest :=
        List.exists_cons_of_ne_nil fun none => isName.notEmpty (String.toList_injective none)
      have noSlash := isName.noSlash
      rw [shape, List.mem_cons, not_or] at noSlash
      cases others with
      | nil => simpa [shape] using Ne.symm noSlash.1
      | cons other others =>
          simpa [String.intercalate_cons_cons, shape] using Ne.symm noSlash.1

/-- A path of names from the root is read as it was written. -/
theorem ofText_text
    (absolute : path.anchor ≠ .relative)
    (areNames : ∀ name ∈ path.parts, IsName name) :
    ofText path.text = path := by
  obtain ⟨anchor, names⟩ := path
  have noSlash := head?_intercalate_ne areNames
  have slashes : (anchor.text.toList ++ ("/".intercalate names).toList).takeWhile (· = '/') =
      anchor.text.toList := by
    rw [takeWhile_append fun _ => noSlash]
    cases anchor <;> decide
  have parts : partsOf (anchor.text.toList ++ ("/".intercalate names).toList) = names := by
    have isOpen : anchor.text.toList = [] ∨ anchor.text.toList.getLast? = some '/' := by
      cases anchor <;> decide
    have none : partsOf anchor.text.toList = [] := by
      cases anchor <;> decide
    rw [partsOf_append isOpen, none, partsOf_intercalate areNames, List.nil_append]
  have isAnchor : Anchor.ofSlashes anchor.text.toList.length = anchor := by
    cases anchor <;> decide
  rw [text_of_absolute absolute, ofText, String.toList_append, slashes, isAnchor]
  exact congrArg _ parts

/-- A part that is read from a text does not turn back, or it is a name. -/
theorem isName_of_mem_ofText
    {text part : String}
    (noNull : FileWork.holdsNull text = false)
    (member : part ∈ (ofText text).parts)
    (notTwoPoints : part ≠ "..") :
    IsName part := by
  obtain ⟨piece, isPiece, rfl⟩ := List.mem_map.1 member
  obtain ⟨isCut, isPart⟩ := List.mem_filter.1 isPiece
  obtain ⟨notEmpty, notPoint⟩ : piece ≠ [] ∧ piece ≠ ['.'] := by
    simpa [Path.isPart] using isPart
  refine ⟨?_, ?_, notTwoPoints, ?_, ?_⟩
  · exact fun same => notEmpty (String.ofList_injective same)
  · exact fun same => notPoint (String.ofList_injective same)
  · rw [String.toList_ofList]
    exact Text.notMem_of_mem_splitOn isCut
  · rw [← Bool.not_eq_true, FileWork.holdsNull, List.contains_iff_mem] at noNull ⊢
    rw [String.toList_ofList]
    intro null
    refine noNull ((Text.erase_sublist (List.cons_ne_nil '/' []) text.toList).subset ?_)
    exact List.mem_flatten.2 ⟨piece, isCut, null⟩

end Path

end GrammarCorpus
