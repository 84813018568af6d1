import GrammarCorpus.Random.Mersenne
import Mathlib.Data.List.Perm.Basic
import Mathlib.Data.List.Perm.Subperm
import Mathlib.Data.List.Nodup

namespace GrammarCorpus

/-!
# The twister is a lawful source

Whatever words the twister gives, the questions of the generator are answered inside
their ranges. A number below a bound stays below it also where refusals run out. Drawing
from a pool takes one position out of it, whatever order that leaves the others in, and
drawing from a long sequence never takes a position twice, as there are always fewer
taken positions than there are positions.
-/

namespace Mersenne

variable {α β : Type}

/-- A value leaves the state as it is. -/
theorem run_pure (value : α) (state : Mersenne) :
    (pure value : StateM Mersenne α).run state = (value, state) := rfl

/-- A step starts from the state that the one before leaves. -/
theorem run_bind
    (first : StateM Mersenne α)
    (next : α → StateM Mersenne β)
    (state : Mersenne) :
    (first >>= next).run state = (next (first.run state).1).run (first.run state).2 := rfl

/-- A number that is drawn stays below its bound. -/
theorem below_lt
    {bound : Nat}
    (positive : 0 < bound)
    (state : Mersenne) :
    ((below bound).run state).1 < bound := by
  unfold below
  generalize refusalLimit = refusals
  induction refusals generalizing state with
  | zero => exact positive
  | succ refusals inductionHypothesis =>
      unfold below.go
      rw [run_bind]
      split
      · rwa [run_pure]
      · exact inductionHypothesis _

/-- A position that is drawn leaves all others in the pool. -/
theorem drawn_cons_perm
    (front : List Nat)
    (last : Nat)
    {position : Nat}
    (inside : position ≤ front.length) :
    ((front ++ [last]).getD position 0 :: ((front ++ [last]).set position last).dropLast).Perm
      (front ++ [last]) := by
  rcases Nat.lt_or_eq_of_le inside with before | atEnd
  · have drawn : (front ++ [last]).getD position 0 = front[position] := by
      simp [List.getElem?_append_left before, before]
    rw [drawn, List.set_append_left _ _ before, List.dropLast_concat]
    calc
      (front[position] :: front.set position last).Perm
          (front[position] :: last :: front.eraseIdx position) :=
        (List.set_perm_cons_eraseIdx before last).cons _
      _ |>.Perm (last :: front[position] :: front.eraseIdx position) := .swap _ _ _
      _ |>.Perm (last :: front) := (List.getElem_cons_eraseIdx_perm before).cons _
      _ |>.Perm (front ++ [last]) := (List.perm_append_singleton last front).symm
  · subst atEnd
    simp only [List.getD_eq_getElem?_getD, List.getElem?_concat_length, Option.getD_some,
      List.set_append_right _ _ (Nat.le_refl _), Nat.sub_self, List.set_cons_zero,
      List.dropLast_concat]
    exact (List.perm_append_singleton last front).symm

/-- A position that is drawn and what stays in the pool are all that was in it. -/
theorem pool_perm
    {pool : Array Nat}
    {position : Nat}
    (inside : position < pool.size) :
    (pool.getD position 0 ::
      (pool.setIfInBounds position (pool.getD (pool.size - 1) 0)).pop.toList).Perm
        pool.toList := by
  obtain ⟨front, last, shape⟩ : ∃ front last, pool.toList = front ++ [last] := by
    refine ⟨_, _, (List.dropLast_concat_getLast ?_).symm⟩
    intro none
    have noPosition := congrArg List.length none
    simp only [Array.length_toList, List.length_nil] at noPosition
    omega
  have size : pool.size = front.length + 1 := by
    rw [← Array.length_toList, shape, List.length_append, List.length_singleton]
  have first : pool.getD position 0 = (front ++ [last]).getD position 0 := by
    rw [← shape]
    simp [Array.getD_eq_getD_getElem?]
  have final : pool.getD (pool.size - 1) 0 = last := by
    rw [Array.getD_eq_getD_getElem?, ← Array.getElem?_toList, shape, size]
    simp
  rw [first, final, Array.toList_pop, Array.toList_setIfInBounds, shape]
  exact drawn_cons_perm front last (by omega)

/-- Positions that are drawn from a pool are distinct and come from it. -/
theorem fromPool_nodup
    {count : Nat}
    {pool : Array Nat}
    (enough : count ≤ pool.size)
    (distinct : pool.toList.Nodup)
    (state : Mersenne) :
    let drawn := ((fromPool count pool).run state).1
    drawn.length = count ∧ drawn.Nodup ∧ drawn ⊆ pool.toList := by
  induction count generalizing pool state with
  | zero => exact ⟨rfl, .nil, List.nil_subset _⟩
  | succ count inductionHypothesis =>
      intro drawn
      obtain ⟨position, isPosition⟩ : ∃ position,
        ((below pool.size).run state).1 = position := ⟨_, rfl⟩
      have perm := pool_perm (isPosition ▸ below_lt (by omega) state : position < pool.size)
      obtain ⟨rest, isRest⟩ : ∃ rest,
        (pool.setIfInBounds position (pool.getD (pool.size - 1) 0)).pop = rest := ⟨_, rfl⟩
      rw [isRest] at perm
      obtain ⟨outside, restDistinct⟩ := List.nodup_cons.1 (perm.nodup_iff.2 distinct)
      have restSize : count ≤ rest.size := by
        have lengths := perm.length_eq
        simp only [List.length_cons, Array.length_toList] at lengths
        omega
      have ends : drawn = pool.getD position 0 ::
          ((fromPool count rest).run ((below pool.size).run state).2).1 := by
        rw [← isRest, ← isPosition]
        simp only [drawn, fromPool, run_bind, run_pure]
      obtain ⟨length, nodup, subset⟩ :=
        inductionHypothesis restSize restDistinct ((below pool.size).run state).2
      rw [ends]
      refine ⟨by rw [List.length_cons, length], ?_, ?_⟩
      · exact List.nodup_cons.2 ⟨fun member => outside (subset member), nodup⟩
      · intro other member
        rcases List.mem_cons.1 member with rfl | later
        · exact perm.subset List.mem_cons_self
        · exact perm.subset (List.mem_cons_of_mem _ (subset later))

/-- Where fewer positions are taken than there are, another one is drawn. -/
theorem untaken_not_mem
    {length : Nat}
    {taken : List Nat}
    (fewer : taken.length < length)
    (state : Mersenne) :
    ((untaken length taken).run state).1 < length ∧
      ((untaken length taken).run state).1 ∉ taken := by
  unfold untaken
  generalize refusalLimit = refusals
  induction refusals generalizing state with
  | zero =>
      change ((List.range length).find? (!taken.contains ·)).getD 0 < length ∧
        ((List.range length).find? (!taken.contains ·)).getD 0 ∉ taken
      cases found : (List.range length).find? (!taken.contains ·) with
      | some position =>
          have isFree := List.find?_some found
          rw [Option.getD_some]
          exact ⟨List.mem_range.1 (List.mem_of_find?_eq_some found), by simpa using isFree⟩
      | none =>
          -- All positions would be taken, which are more than there are taken ones.
          have all : List.range length ⊆ taken := by
            intro position member
            simpa using List.find?_eq_none.1 found position member
          have atMost := (List.subperm_of_subset List.nodup_range all).length_le
          rw [List.length_range] at atMost
          omega
  | succ refusals inductionHypothesis =>
      unfold untaken.go
      rw [run_bind]
      split
      · exact inductionHypothesis _
      · rename_i free
        rw [run_pure]
        exact ⟨below_lt (Nat.zero_lt_of_lt fewer) state, by simpa using free⟩

/-- Positions that are drawn from a long sequence differ from each other and from those before. -/
theorem fromLong_nodup
    {length count : Nat}
    {taken : List Nat}
    (enough : taken.length + count ≤ length)
    (state : Mersenne) :
    let drawn := ((fromLong length count taken).run state).1
    drawn.length = count ∧
      drawn.Nodup ∧
      ∀ position ∈ drawn, position < length ∧ position ∉ taken := by
  induction count generalizing taken state with
  | zero => exact ⟨rfl, .nil, nofun⟩
  | succ count inductionHypothesis =>
      have fewer : taken.length < length := by omega
      obtain ⟨inside, isFree⟩ := untaken_not_mem fewer state
      have room : (((untaken length taken).run state).1 :: taken).length + count ≤ length := by
        rw [List.length_cons]
        omega
      obtain ⟨total, nodup, bounds⟩ :=
        inductionHypothesis room ((untaken length taken).run state).2
      simp only [fromLong, run_bind, run_pure]
      refine ⟨by rw [List.length_cons, total], List.nodup_cons.2 ⟨?_, nodup⟩, ?_⟩
      · exact fun member => (bounds _ member).2 List.mem_cons_self
      · intro position member
        rcases List.mem_cons.1 member with rfl | later
        · exact ⟨inside, isFree⟩
        · obtain ⟨within, apart⟩ := bounds position later
          exact ⟨within, fun earlier => apart (List.mem_cons_of_mem _ earlier)⟩

end Mersenne

instance : LawfulRandomSource Mersenne where
  between?_mem state least greatest ordered := by
    have positive : 0 < (greatest - least + 1).toNat := by omega
    have drawn := Mersenne.below_lt positive state
    refine ⟨least + ((Mersenne.below (greatest - least + 1).toNat).run state).1, ?_, ?_, ?_⟩
    · simp only [RandomSource.between?, if_pos ordered]
      rfl
    · omega
    · omega
  position?_lt state length positive := by
    refine ⟨_, ?_, Mersenne.below_lt positive state⟩
    simp only [RandomSource.position?, if_neg (Nat.ne_of_gt positive)]
    rfl
  positions?_nodup state length count enough := by
    simp only [RandomSource.positions?, if_neg (Nat.not_lt.2 enough)]
    by_cases short : length ≤ Mersenne.poolLimit count
    · have pooled : count ≤ (Array.range length).size := by
        rwa [Array.size_range]
      have distinct : (Array.range length).toList.Nodup := by
        rw [Array.toList_range]
        exact List.nodup_range
      obtain ⟨total, nodup, subset⟩ := Mersenne.fromPool_nodup pooled distinct state
      refine ⟨_, ?_, total, nodup, ?_⟩
      · rw [if_pos short]
        rfl
      · intro position member
        simpa [Array.toList_range] using subset member
    · have room : ([] : List Nat).length + count ≤ length := by
        rwa [List.length_nil, Nat.zero_add]
      obtain ⟨total, nodup, bounds⟩ := Mersenne.fromLong_nodup room state
      refine ⟨_, ?_, total, nodup, fun position member => (bounds position member).1⟩
      rw [if_neg short]
      rfl

end GrammarCorpus
