import GrammarCorpus.Proofs.Draw
import Mathlib.Data.List.Perm.Subperm

namespace GrammarCorpus

/-!
# What samples can be

Items at distinct positions of a list are some of its items in any order, each as often as the
list holds it at most; and all such lists are found at distinct positions. So this is what a
lawful source can answer when it is asked for a sample.
-/

namespace Draw

section Positions

variable {α : Type} {items drawn : List α}

/-- A list is found at its positions. -/
theorem filterMap_range (items : List α) :
    (List.range items.length).filterMap (items[·]?) = items := by
  induction items with
  | nil => rfl
  | cons item others inductionHypothesis =>
      rw [List.length_cons, List.range_succ_eq_map, List.filterMap_cons, List.filterMap_map]
      exact congrArg (item :: ·) inductionHypothesis

/-- What is found at some positions is found in another order at the positions in an order. -/
theorem exists_perm_positions
    {positions : List Nat}
    (arranged : drawn.Perm (positions.filterMap (items[·]?))) :
    ∃ others : List Nat, others.Perm positions ∧ others.filterMap (items[·]?) = drawn := by
  induction drawn generalizing positions with
  | nil => exact ⟨positions, .refl _, arranged.symm.eq_nil⟩
  | cons first rest inductionHypothesis =>
      obtain ⟨position, member, found⟩ :=
        List.mem_filterMap.1 (arranged.subset List.mem_cons_self)
      have taken := List.perm_cons_erase member
      have left : rest.Perm ((positions.erase position).filterMap (items[·]?)) := by
        have whole := arranged.trans (taken.filterMap _)
        rw [List.filterMap_cons, found] at whole
        exact whole.cons_inv
      obtain ⟨others, reordered, isRest⟩ := inductionHypothesis left
      refine ⟨position :: others, (reordered.cons position).trans taken.symm, ?_⟩
      rw [List.filterMap_cons, found, isRest]

/-- Distinct positions are those of some of the items, and of any of them. -/
theorem subperm_iff_exists_positions :
    drawn.Subperm items ↔
      ∃ positions : List Nat,
        positions.Nodup ∧
          (∀ position ∈ positions, position < items.length) ∧
          positions.filterMap (items[·]?) = drawn := by
  constructor
  · rintro ⟨some, arranged, inOrder⟩
    rw [← filterMap_range items] at inOrder
    obtain ⟨positions, chosen, rfl⟩ := List.sublist_filterMap_iff.1 inOrder
    obtain ⟨others, reordered, isDrawn⟩ := exists_perm_positions arranged.symm
    refine ⟨others, reordered.nodup_iff.2 (chosen.nodup List.nodup_range), ?_, isDrawn⟩
    intro position member
    exact List.mem_range.1 (chosen.subset (reordered.subset member))
  · rintro ⟨positions, distinct, inside, rfl⟩
    obtain ⟨some, arranged, inOrder⟩ : positions.Subperm (List.range items.length) :=
      List.subperm_of_subset distinct fun position member =>
        List.mem_range.2 (inside position member)
    refine ⟨some.filterMap (items[·]?), arranged.filterMap _, ?_⟩
    have found := inOrder.filterMap (items[·]?)
    rwa [filterMap_range] at found

/-- Some of the items can be made up to as many as are wanted, if there are so many. -/
theorem exists_subperm_of_length
    {count : Nat}
    (isPart : drawn.Subperm items)
    (few : drawn.length ≤ count)
    (enough : count ≤ items.length) :
    ∃ more, (drawn ++ more).length = count ∧ (drawn ++ more).Subperm items := by
  obtain ⟨chosen, arranged, inOrder⟩ := isPart
  obtain ⟨rest, whole⟩ := inOrder.exists_perm_append
  have counted := whole.length_eq
  rw [List.length_append, arranged.length_eq] at counted
  refine ⟨rest.take (count - drawn.length), ?_, ?_⟩
  · rw [List.length_append, List.length_take]
    omega
  · have part : (drawn ++ rest.take (count - drawn.length)).Sublist (drawn ++ rest) :=
      (List.take_sublist _ _).append_left drawn
    exact part.subperm.trans ((arranged.symm.append_right rest).trans whole.symm).subperm

end Positions

variable {σ α : Type} [RandomSource σ] [LawfulRandomSource σ]

/-- A lawful source draws as many items as were asked for, none of them too often. -/
theorem sample_gives_subperm
    {items : List α}
    {count : Nat}
    (enough : count ≤ items.length) :
    (sample items count : Draw σ (List α)).Gives fun drawn =>
      drawn.length = count ∧ drawn.Subperm items := by
  have answers :
      Gives (ExceptT.lift (RandomSource.positions? items.length count) : Draw σ _)
        fun answer => ∃ positions, answer = some positions ∧
          positions.length = count ∧
          positions.Nodup ∧
          ∀ position ∈ positions, position < items.length :=
    .lift fun state => LawfulRandomSource.positions?_nodup state enough
  refine ((sample_gives_length enough).mono fun _ => And.left).and (answers.bind ?_)
  rintro answer ⟨positions, rfl, -, distinct, inside⟩
  exact .pure (subperm_iff_exists_positions.2 ⟨positions, distinct, inside, rfl⟩)

end Draw

end GrammarCorpus
