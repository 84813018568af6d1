import GrammarCorpus.Corpus.Pool
import Mathlib.Data.List.Nodup

namespace GrammarCorpus

open List

/-!
# Strides

A stride going up holds the numbers at its distance below its stop, in increasing
order. The strides of all workers together hold every trial exactly once, however
the number of workers and that of trials compare.
-/

/-- Which steps of a stride stay below its stop. -/
theorem step_lt_count_iff
    {span distance : Int}
    (positive : 0 < distance)
    (step : Nat) :
    step < ((span + distance - 1) / distance).toNat ↔ step * distance < span := by
  rw [Int.lt_toNat, Int.lt_iff_add_one_le, Int.le_ediv_iff_mul_le positive, Int.add_mul]
  omega

/-- The members of a stride that goes up. -/
theorem mem_stride
    {start stop distance number : Int}
    (positive : 0 < distance) :
    number ∈ stride start stop distance ↔
      number < stop ∧ ∃ step : Nat, number = start + step * distance := by
  simp only [stride, positive, ↓reduceIte, List.mem_map, List.mem_range,
    step_lt_count_iff positive]
  constructor
  · rintro ⟨step, inside, rfl⟩
    exact ⟨by omega, step, rfl⟩
  · rintro ⟨inside, step, rfl⟩
    exact ⟨step, by omega, rfl⟩

/-- A stride that goes up is in increasing order. -/
theorem stride_pairwise_lt
    {start stop distance : Int}
    (positive : 0 < distance) :
    (stride start stop distance).Pairwise (· < ·) := by
  simp only [stride, positive, ↓reduceIte, List.pairwise_map]
  refine List.pairwise_lt_range.imp ?_
  intro earlier later before
  have scaled : (earlier : Int) * distance < later * distance :=
    Int.mul_lt_mul_of_pos_right (by omega) positive
  omega

/-- A stride that goes up repeats nothing. -/
theorem stride_nodup
    {start stop distance : Int}
    (positive : 0 < distance) :
    (stride start stop distance).Nodup :=
  (stride_pairwise_lt positive).imp Int.ne_of_lt

/-- The members of a run of consecutive numbers. -/
theorem mem_stride_one {start stop number : Int} :
    number ∈ stride start stop 1 ↔ start ≤ number ∧ number < stop := by
  rw [mem_stride Int.one_pos]
  constructor
  · rintro ⟨inside, step, rfl⟩
    omega
  · rintro ⟨begun, inside⟩
    exact ⟨inside, (number - start).toNat, by omega⟩

/-- The numbers of a run that are below some bound. -/
theorem filter_lt_stride_one {start bound stop : Int} (within : bound ≤ stop) :
    (stride start stop 1).filter (fun number => number < bound) = stride start bound 1 := by
  refine List.Perm.eq_of_pairwise ?_ ((stride_pairwise_lt Int.one_pos).filter _)
    (stride_pairwise_lt Int.one_pos) ?_
  · intro first second _ _ before behind
    omega
  · refine (List.perm_ext_iff_of_nodup ((stride_nodup Int.one_pos).filter _)
      (stride_nodup Int.one_pos)).2 fun number => ?_
    simp only [List.mem_filter, mem_stride_one, decide_eq_true_eq]
    omega

/-- In a run of consecutive numbers, what stands in front of a number is the run up to it. -/
theorem stride_one_eq_append_cons
    {start stop number : Int}
    {before behind : List Int}
    (split : stride start stop 1 = before ++ number :: behind) :
    before = stride start number 1 ∧ start ≤ number ∧ number < stop := by
  have member : number ∈ stride start stop 1 := by
    rw [split]
    exact List.mem_append_right _ List.mem_cons_self
  obtain ⟨begun, below⟩ := mem_stride_one.1 member
  have ordered : (stride start stop 1).Pairwise (· < ·) := stride_pairwise_lt Int.one_pos
  rw [split] at ordered
  obtain ⟨-, orderedBehind, across⟩ := List.pairwise_append.1 ordered
  have front : before.filter (fun other => other < number) = before := by
    refine List.filter_eq_self.2 fun other inFront => decide_eq_true ?_
    exact across other inFront number List.mem_cons_self
  have back : behind.filter (fun other => other < number) = [] := by
    refine List.filter_eq_nil_iff.2 fun other isBehind => ?_
    have further := (List.pairwise_cons.1 orderedBehind).1 other isBehind
    simp only [decide_eq_true_eq]
    omega
  refine ⟨?_, begun, below⟩
  rw [← filter_lt_stride_one (Int.le_of_lt below), split, List.filter_append, front,
    List.filter_cons_of_neg (by simp), back, List.append_nil]

/-- A number of a worker's stride leaves the worker's number as its remainder. -/
theorem emod_of_mem_stride
    {worker workers stop trial : Int}
    (first : 0 ≤ worker)
    (last : worker < workers)
    (member : trial ∈ stride worker stop workers) :
    trial % workers = worker := by
  obtain ⟨-, step, rfl⟩ := (mem_stride (by omega)).1 member
  rw [Int.add_mul_emod_self_right, Int.emod_eq_of_lt first last]

/-- The strides of all workers hold every trial exactly once. -/
theorem flatMap_stride_perm
    {workers : Int}
    (stop : Int)
    (someWorker : 1 ≤ workers) :
    ((stride 0 workers 1).flatMap fun worker => stride worker stop workers) ~
      stride 0 stop 1 := by
  have positive : 0 < workers := by omega
  rw [perm_ext_iff_of_nodup _ (stride_nodup Int.one_pos)]
  · intro trial
    rw [List.mem_flatMap, mem_stride_one]
    constructor
    · rintro ⟨worker, member, inside⟩
      obtain ⟨nonnegative, -⟩ := mem_stride_one.1 member
      obtain ⟨below, step, rfl⟩ := (mem_stride positive).1 inside
      have scaled : 0 ≤ (step : Int) * workers := Int.mul_nonneg (by omega) (by omega)
      omega
    · rintro ⟨nonnegative, below⟩
      refine ⟨trial % workers, ?_, ?_⟩
      · rw [mem_stride_one]
        exact ⟨Int.emod_nonneg _ (by omega), Int.emod_lt_of_pos _ positive⟩
      · rw [mem_stride positive]
        refine ⟨below, (trial / workers).toNat, ?_⟩
        rw [Int.toNat_of_nonneg (Int.ediv_nonneg nonnegative (by omega))]
        exact (Int.emod_add_ediv_mul trial workers).symm
  · rw [nodup_flatMap]
    refine ⟨fun worker _ => stride_nodup positive, ?_⟩
    refine (stride_nodup Int.one_pos).imp_of_mem ?_
    intro first second firstMember secondMember different trial inFirst inSecond
    obtain ⟨firstNonnegative, firstBelow⟩ := mem_stride_one.1 firstMember
    obtain ⟨secondNonnegative, secondBelow⟩ := mem_stride_one.1 secondMember
    exact different
      ((emod_of_mem_stride firstNonnegative firstBelow inFirst).symm.trans
        (emod_of_mem_stride secondNonnegative secondBelow inSecond))

end GrammarCorpus
