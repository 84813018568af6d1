import GrammarCorpus.Corpus.Run
import GrammarCorpus.Proofs.Pool.Ending
import GrammarCorpus.Proofs.Stride

namespace GrammarCorpus

open List

/-!
# Concurrent and sequential trials

Workers that share trials whose outcomes are settled give the results that the
trials give one after the other. Where trials fail, the pool fails as well, with the
failure of a trial that fails first in its worker's stride; which worker that is, is
up to the schedule.

Nothing is assumed of the schedule: it is part of the machine, and the statements
hold on every machine. Workers are told to stop only behind the last message that is
taken, so that what they do from then on bears on nothing.

A worker reports the failures of its trials. An interrupt is none of them: it comes from
the user at any time, and the worker ends on it without a word.
-/

namespace Lane

variable {ε α : Type} {isInterrupt : ε → Bool} {outcome : Int → Except ε (Option α)}

/-- A script reports its first failure, unless that is an interrupt, and no other. -/
theorem fatal_mem_script_iff
    {worker trial : Int}
    {failure : ε}
    {trials : List Int}
    (ascending : trials.Pairwise (· < ·)) :
    .fatal trial failure ∈ script isInterrupt outcome worker trials ↔
      trial ∈ trials ∧
        (∀ earlier ∈ trials, earlier < trial → ∃ found, outcome earlier = .ok found) ∧
        outcome trial = .error failure ∧
        isInterrupt failure = false := by
  induction trials with
  | nil =>
      simp [script]
  | cons first rest inductionHypothesis =>
      obtain ⟨firstLeast, restAscending⟩ := List.pairwise_cons.1 ascending
      cases ended : outcome first with
      | ok found =>
          simp only [script, ended, List.mem_cons, reduceCtorEq, false_or,
            inductionHypothesis restAscending]
          constructor
          · rintro ⟨member, succeed, fails, noInterrupt⟩
            refine ⟨.inr member, ?_, fails, noInterrupt⟩
            rintro earlier (isFirst | inRest) before
            · exact ⟨found, isFirst ▸ ended⟩
            · exact succeed earlier inRest before
          · rintro ⟨isFirst | inRest, succeed, fails, noInterrupt⟩
            · simp [isFirst, ended] at fails
            · exact ⟨inRest, fun earlier member => succeed earlier (.inr member),
                fails, noInterrupt⟩
      | error cause =>
          constructor
          · intro member
            by_cases interrupt : isInterrupt cause = true
            · simp [script, ended, interrupt] at member
            · simp only [script, ended, interrupt, Bool.false_eq_true, ↓reduceIte,
                List.mem_cons, Message.fatal.injEq, reduceCtorEq, List.not_mem_nil,
                or_false] at member
              obtain ⟨rfl, rfl⟩ := member
              refine ⟨List.mem_cons_self, ?_, ended, by simpa using interrupt⟩
              intro earlier earlierMember before
              rcases List.mem_cons.1 earlierMember with isFirst | inRest
              · omega
              · have after := firstLeast earlier inRest
                omega
          · rintro ⟨member, succeed, fails, noInterrupt⟩
            rcases List.mem_cons.1 member with isFirst | inRest
            · subst isFirst
              obtain rfl : cause = failure := by simpa [ended] using fails
              simp [script, ended, noInterrupt]
            · obtain ⟨found, succeeds⟩ :=
                succeed first List.mem_cons_self (firstLeast trial inRest)
              simp [ended] at succeeds

end Lane

namespace Pool

variable {ε α : Type}

/-- What a trial has found, if it has an outcome and a result. -/
def found? (outcome : Int → Except ε (Option α)) (trial : Int) : Option α :=
  (outcome trial).toOption.join

/--
A trial that fails and is the least failing one of its class: the trials of a worker
are its number and every further number at a distance of the number of workers.
-/
structure FailsFirst
    (outcome : Int → Except ε (Option α))
    (workers trials trial : Int)
    (failure : ε) : Prop where
  below : trial < trials
  fails : outcome trial = .error failure
  first :
    ∃ worker, 0 ≤ worker ∧ worker < workers ∧
      (∃ step : Nat, trial = worker + step * workers) ∧
      ∀ step : Nat, worker + step * workers < trial →
        ∃ found, outcome (worker + step * workers) = .ok found

variable {isInterrupt : ε → Bool} {outcome : Int → Except ε (Option α)}
variable {workers trials : Int}

/-- At the start every worker has its whole script before it. -/
theorem awaited_start :
    awaited isInterrupt outcome (start trials workers) =
      (stride 0 workers 1).flatMap fun worker =>
        Lane.script isInterrupt outcome worker (stride worker trials workers) := by
  simp [awaited, start, Lane.future, Lane.start, List.flatMap_map]

/-- At the start every trial is to be made, each once. -/
theorem outstanding_start_perm (someWorker : 1 ≤ workers) :
    outstanding (start trials workers : List (Lane ε α)) ~ stride 0 trials 1 := by
  simpa [outstanding, start, Lane.start, List.flatMap_map] using
    flatMap_stride_perm trials someWorker

/-- The fatal messages that are awaited at the start. -/
theorem fatal_mem_awaited_start_iff
    {trial : Int}
    {failure : ε} :
    .fatal trial failure ∈ awaited isInterrupt outcome (start trials workers) ↔
      FailsFirst outcome workers trials trial failure ∧ isInterrupt failure = false := by
  rw [awaited_start, List.mem_flatMap]
  constructor
  · rintro ⟨worker, member, reported⟩
    obtain ⟨nonnegative, inside⟩ := mem_stride_one.1 member
    have positive : 0 < workers := by omega
    obtain ⟨inStride, succeed, fails, noInterrupt⟩ :=
      (Lane.fatal_mem_script_iff (stride_pairwise_lt positive)).1 reported
    obtain ⟨below, step, same⟩ := (mem_stride positive).1 inStride
    refine ⟨⟨below, fails, worker, nonnegative, inside, ⟨step, same⟩, ?_⟩, noInterrupt⟩
    intro earlier before
    exact succeed _ ((mem_stride positive).2 ⟨by omega, earlier, rfl⟩) before
  · rintro ⟨⟨below, fails, worker, nonnegative, inside, ⟨step, same⟩, succeed⟩, noInterrupt⟩
    have positive : 0 < workers := by omega
    refine ⟨worker, mem_stride_one.2 ⟨nonnegative, inside⟩, ?_⟩
    refine (Lane.fatal_mem_script_iff (stride_pairwise_lt positive)).2
      ⟨(mem_stride positive).2 ⟨below, step, same⟩, ?_, fails, noInterrupt⟩
    intro earlier member before
    obtain ⟨-, earlierStep, rfl⟩ := (mem_stride positive).1 member
    exact succeed earlierStep before

/-- A trial that fails first is one of the trials. -/
theorem FailsFirst.nonnegative
    {trial : Int}
    {failure : ε}
    (failsFirst : FailsFirst outcome workers trials trial failure) :
    0 ≤ trial := by
  obtain ⟨worker, nonnegative, below, ⟨step, rfl⟩, -⟩ := failsFirst.first
  exact Int.add_nonneg nonnegative (Int.mul_nonneg (by omega) (by omega))

/-- A trial that fails has one in its class that fails first. -/
theorem exists_failsFirst
    {trial : Int}
    {failure : ε}
    (someWorker : 1 ≤ workers)
    (nonnegative : 0 ≤ trial)
    (below : trial < trials)
    (fails : outcome trial = .error failure) :
    ∃ first cause, FailsFirst outcome workers trials first cause := by
  have positive : 0 < workers := by omega
  obtain ⟨worker, steps, first, last, rfl⟩ :
      ∃ (worker : Int) (steps : Nat),
        0 ≤ worker ∧ worker < workers ∧ trial = worker + steps * workers := by
    refine ⟨trial % workers, (trial / workers).toNat, Int.emod_nonneg _ (by omega),
      Int.emod_lt_of_pos _ positive, ?_⟩
    rw [Int.toNat_of_nonneg (Int.ediv_nonneg nonnegative (by omega)), Int.emod_add_ediv_mul]
  induction steps using Nat.strongRecOn generalizing failure with
  | _ steps inductionHypothesis =>
      by_cases succeed :
          ∀ step < steps, ∃ found, outcome (worker + (step : Nat) * workers) = .ok found
      · refine ⟨_, failure, below, fails, worker, first, last, ⟨steps, rfl⟩, ?_⟩
        intro step before
        have scaled : (step : Int) * workers < steps * workers := by omega
        have earlier : (step : Int) < steps :=
          Int.lt_of_mul_lt_mul_right scaled (by omega)
        exact succeed step (by omega)
      · simp only [not_forall, not_exists] at succeed
        obtain ⟨step, earlier, noResult⟩ := succeed
        have scaled : (step : Int) * workers ≤ steps * workers :=
          Int.mul_le_mul_of_nonneg_right (by omega) (by omega)
        cases ended : outcome (worker + step * workers) with
        | ok found =>
            exact absurd ended (noResult found)
        | error cause =>
            refine inductionHypothesis step earlier ?_ (by omega) ended
            exact Int.add_nonneg first (Int.mul_nonneg (by omega) (by omega))

/-- The results of a script none of whose trials fails. -/
theorem filterMap_result?_script
    {worker : Int}
    {listed : List Int}
    (succeed : ∀ trial ∈ listed, ∃ found, outcome trial = .ok found) :
    (Lane.script isInterrupt outcome worker listed).filterMap Message.result? =
      listed.filterMap fun trial =>
        (found? outcome trial).map fun value => (trial, value) := by
  induction listed with
  | nil =>
      rfl
  | cons trial rest inductionHypothesis =>
      obtain ⟨found, ended⟩ := succeed trial List.mem_cons_self
      have later := inductionHypothesis
        fun other member => succeed other (List.mem_cons_of_mem _ member)
      simp [Lane.script, ended, Message.result?, List.filterMap_cons, found?, later,
        Except.toOption]

/-- Results that arrive in any order are sorted by their trials. -/
theorem sorted_eq_of_perm
    {harvest : Harvest α}
    {expected : List (Int × α)}
    (same : harvest.results ~ expected)
    (ascending : expected.Pairwise fun left right => left.1 < right.1) :
    harvest.sorted = expected.map Prod.snd := by
  have ordered : (harvest.results.mergeSort fun left right => left.1 ≤ right.1).Pairwise
      fun left right => left.1 ≤ right.1 := by
    refine (List.pairwise_mergeSort ?_ ?_ harvest.results).imp (by simp)
    · intro first second third firstBefore secondBefore
      simp only [decide_eq_true_eq] at firstBefore secondBefore ⊢
      omega
    · intro first second
      simp only [Bool.or_eq_true, decide_eq_true_eq]
      omega
  have arranged : (harvest.results.mergeSort fun left right => left.1 ≤ right.1) ~ expected :=
    (List.mergeSort_perm _ _).trans same
  have settled : (harvest.results.mergeSort fun left right => left.1 ≤ right.1) = expected := by
    refine arranged.eq_of_pairwise ?_ ordered (ascending.imp Int.le_of_lt)
    intro left right leftMember rightMember leftBefore rightBefore
    have distinct : (expected.map Prod.fst).Nodup :=
      (List.pairwise_map.2 ascending).imp Int.ne_of_lt
    exact List.inj_on_of_nodup_map distinct (arranged.mem_iff.1 leftMember) rightMember
      (Int.le_antisymm leftBefore rightBefore)
  rw [Harvest.sorted, settled]

/-- The results that are awaited at the start of a pool none of whose trials fails. -/
theorem filterMap_result?_awaited_start
    (someWorker : 1 ≤ workers)
    (succeed : ∀ trial, 0 ≤ trial → trial < trials → ∃ found, outcome trial = .ok found) :
    (awaited isInterrupt outcome (start trials workers)).filterMap Message.result? ~
      (stride 0 trials 1).filterMap fun trial =>
        (found? outcome trial).map fun value => (trial, value) := by
  have positive : 0 < workers := by omega
  have scripts :
      ((stride 0 workers 1).flatMap fun worker =>
        (Lane.script isInterrupt outcome worker (stride worker trials workers)).filterMap
          Message.result?) =
      (stride 0 workers 1).flatMap fun worker =>
        (stride worker trials workers).filterMap fun trial =>
          (found? outcome trial).map fun value => (trial, value) := by
    refine List.flatMap_congr fun worker member => filterMap_result?_script ?_
    intro trial inStride
    have inRange := ((flatMap_stride_perm trials someWorker).mem_iff).1
      (List.mem_flatMap.2 ⟨worker, member, inStride⟩)
    obtain ⟨nonnegative, below⟩ := mem_stride_one.1 inRange
    exact succeed trial nonnegative below
  rw [awaited_start, List.filterMap_flatMap, scripts, ← List.filterMap_flatMap]
  exact (flatMap_stride_perm trials someWorker).filterMap _

end Pool

namespace Batch

open Pool (found? FailsFirst)

variable {machine : Machine} {attempt : Attempt} {scratch : Path}
variable {outcome : Int → Except Failure (Option Classified)}

/--
An ending of trials that are made one after the other: the results of all of them
behind those there were, or the failure of one of them.
-/
def EndsInOrder
    (outcome : Int → Except Failure (Option Classified))
    (listed : List Int)
    (results : List Classified) :
    Except Failure (List Classified) → Prop
  | .ok collected =>
      (∀ trial ∈ listed, ∃ found, outcome trial = .ok found) ∧
        collected = results ++ listed.filterMap (found? outcome)
  | .error failure =>
      ∃ trial ∈ listed, outcome trial = .error failure

/-- A trial that does not fail comes in front of the later ones. -/
theorem EndsInOrder.cons
    {trial : Int}
    {later : List Int}
    {results : List Classified}
    {found : Option Classified}
    {ending : Except Failure (List Classified)}
    (ended : outcome trial = .ok found)
    (rest : EndsInOrder outcome later (results ++ found.toList) ending) :
    EndsInOrder outcome (trial :: later) results ending := by
  cases ending with
  | error failure =>
      obtain ⟨other, member, fails⟩ := rest
      exact ⟨other, List.mem_cons_of_mem _ member, fails⟩
  | ok collected =>
      obtain ⟨succeed, rfl⟩ := rest
      constructor
      · intro other member
        rcases List.mem_cons.1 member with isFirst | inLater
        · exact ⟨found, isFirst ▸ ended⟩
        · exact succeed other inLater
      · cases found <;> simp [found?, ended, Except.toOption]

/-- Trials with settled outcomes, made one after the other. -/
theorem sequentially_ends
    (trials : Int)
    (listed : List Int)
    (results : List Classified)
    (workspace : Workspace)
    (settled : ∀ workspace, ∀ trial ∈ listed,
      ((attempt scratch trial).run.perform machine workspace).1 = outcome trial) :
    EndsInOrder outcome listed results
      ((sequentially attempt trials scratch listed results).run.perform
        machine workspace).1 := by
  induction listed generalizing results workspace with
  | nil =>
      simp [sequentially, EndsInOrder]
  | cons trial later inductionHypothesis =>
      have here := settled workspace trial List.mem_cons_self
      rw [sequentially, Work.perform_run_bind, here]
      cases ended : outcome trial with
      | error failure =>
          exact ⟨trial, List.mem_cons_self, ended⟩
      | ok found =>
          refine EndsInOrder.cons ended ?_
          simp only [Work.perform_run_bind, Work.perform_run_lift]
          exact inductionHypothesis _ _ fun workspace other member =>
            settled workspace other (List.mem_cons_of_mem _ member)

/-- What becomes of a pool becomes of the batch; results are put in order. -/
theorem perform_concurrently
    (machine : Machine)
    (attempt : Attempt)
    (scratch : Path)
    (size trials workers : Int)
    (workspace : Workspace) :
    ∃ started : Workspace,
      ((concurrently attempt size trials scratch workers).run.perform
          machine workspace).1 =
        ((Pool.run Failure.isInterrupt Work.nextTurn
          (fun trial => (attempt scratch trial).run)
          (progress trials)
          (Pool.start trials workers)
          Harvest.empty).perform machine started).1.map Harvest.sorted := by
  refine ⟨((Work.say
    s!"[Starting {workers}-process classification of {trials} size-{size} grammars]\n").perform
      machine workspace).2, ?_⟩
  simp only [concurrently, Work.perform_run_bind, Work.perform_run_lift]
  split
  · rename_i harvest ended
    rw [ended]
    rfl
  · rename_i failure ended
    rw [ended]
    rfl

/--
An ending of concurrent trials. A failure is that of a trial that fails first in its
class; results come back only if whatever fails first in a class is an interrupt, and
they are those of all trials if none fails.
-/
def EndsConcurrently
    (outcome : Int → Except Failure (Option Classified))
    (workers trials : Int) :
    Except Failure (List Classified) → Prop
  | .ok collected =>
      (∀ trial failure,
        FailsFirst outcome workers trials trial failure → failure.isInterrupt = true) ∧
      ((∀ trial, 0 ≤ trial → trial < trials → ∃ found, outcome trial = .ok found) →
        collected = (stride 0 trials 1).filterMap (found? outcome))
  | .error failure =>
      ∃ trial, FailsFirst outcome workers trials trial failure ∧
        failure.isInterrupt = false

/-- The ending of a pool, with its results in order. -/
theorem EndsConcurrently.of_ends
    {trials workers : Int}
    {ending : Except Failure (Harvest Classified)}
    (someWorker : 1 ≤ workers)
    (ends : Pool.Ends Failure.isInterrupt outcome (Pool.start trials workers)
      Harvest.empty ending) :
    EndsConcurrently outcome workers trials (ending.map Harvest.sorted) := by
  cases ending with
  | error failure =>
      obtain ⟨trial, member⟩ := ends
      exact ⟨trial, Pool.fatal_mem_awaited_start_iff.1 member⟩
  | ok final =>
      obtain ⟨noFatal, results⟩ := ends
      constructor
      · intro trial failure failsFirst
        by_contra noInterrupt
        exact noFatal trial failure
          (Pool.fatal_mem_awaited_start_iff.2 ⟨failsFirst, by simpa using noInterrupt⟩)
      · intro succeed
        have expected := results.trans
          (Pool.filterMap_result?_awaited_start someWorker succeed)
        have ascending :
            ((stride 0 trials 1).filterMap fun trial =>
              (found? outcome trial).map fun value => (trial, value)).Pairwise
                fun left right => left.1 < right.1 := by
          refine (stride_pairwise_lt Int.one_pos).filterMap _ ?_
          intro first second before firstResult firstFound secondResult secondFound
          obtain ⟨-, -, rfl⟩ := Option.map_eq_some_iff.1 firstFound
          obtain ⟨-, -, rfl⟩ := Option.map_eq_some_iff.1 secondFound
          exact before
        have sorted := Pool.sorted_eq_of_perm expected ascending
        simpa [List.map_filterMap, Function.comp_def] using sorted

/-- Trials with settled outcomes, shared among workers. -/
theorem concurrently_ends
    {trials workers : Int}
    (size : Int)
    (workspace : Workspace)
    (someWorker : 1 ≤ workers)
    (settled : ∀ workspace trial, 0 ≤ trial → trial < trials →
      ((attempt scratch trial).run.perform machine workspace).1 = outcome trial) :
    EndsConcurrently outcome workers trials
      ((concurrently attempt size trials scratch workers).run.perform
        machine workspace).1 := by
  obtain ⟨started, same⟩ :=
    perform_concurrently machine attempt scratch size trials workers workspace
  have steady : Pool.Steady machine outcome (fun _ trial => 0 ≤ trial ∧ trial < trials)
      Work.nextTurn (fun trial => (attempt scratch trial).run) (progress trials) := {
    pickKeeps := id
    progressKeeps := fun _ => id
    settled := fun inRange => settled _ _ inRange.1 inRange.2
    attemptKeeps := fun _ inRange _ => inRange
  }
  have toMake :
      Pool.outstanding (Pool.start trials workers : List (Lane Failure Classified)) ~
        stride 0 trials 1 :=
    Pool.outstanding_start_perm someWorker
  rw [same]
  exact .of_ends someWorker
    (Pool.run_ends Failure.isInterrupt steady
      (Pool.start trials workers) Harvest.empty started
      (toMake.nodup_iff.2 (stride_nodup Int.one_pos))
      (fun trial member => mem_stride_one.1 (toMake.mem_iff.1 member)))

/-- No trial is cut short by the user: all failures are those that workers report. -/
def Uninterrupted
    (outcome : Int → Except Failure (Option Classified))
    (trials : Int) : Prop :=
  ∀ trial failure, 0 ≤ trial → trial < trials →
    outcome trial = .error failure → failure.isInterrupt = false

/-- Where no trial fails, sequential trials have their results. -/
theorem EndsInOrder.eq_ok
    {listed : List Int}
    {ending : Except Failure (List Classified)}
    (ends : EndsInOrder outcome listed [] ending)
    (succeed : ∀ trial ∈ listed, ∃ found, outcome trial = .ok found) :
    ending = .ok (listed.filterMap (found? outcome)) := by
  cases ending with
  | ok collected =>
      rw [ends.2, List.nil_append]
  | error failure =>
      obtain ⟨trial, member, fails⟩ := ends
      obtain ⟨found, ended⟩ := succeed trial member
      simp [ended] at fails

/-- Where a trial fails, sequential trials fail. -/
theorem EndsInOrder.exists_error
    {listed : List Int}
    {results : List Classified}
    {ending : Except Failure (List Classified)}
    {trial : Int}
    {failure : Failure}
    (ends : EndsInOrder outcome listed results ending)
    (member : trial ∈ listed)
    (fails : outcome trial = .error failure) :
    ∃ cause, ending = .error cause := by
  cases ending with
  | error cause =>
      exact ⟨cause, rfl⟩
  | ok collected =>
      obtain ⟨found, ended⟩ := ends.1 trial member
      simp [ended] at fails

/-- Where no trial fails, concurrent trials have the results of all. -/
theorem EndsConcurrently.eq_ok
    {workers trials : Int}
    {ending : Except Failure (List Classified)}
    (ends : EndsConcurrently outcome workers trials ending)
    (succeed : ∀ trial, 0 ≤ trial → trial < trials → ∃ found, outcome trial = .ok found) :
    ending = .ok ((stride 0 trials 1).filterMap (found? outcome)) := by
  cases ending with
  | ok collected =>
      rw [ends.2 succeed]
  | error failure =>
      obtain ⟨trial, failsFirst, -⟩ := ends
      obtain ⟨found, ended⟩ := succeed trial failsFirst.nonnegative failsFirst.below
      have fails := failsFirst.fails
      simp [ended] at fails

/-- Where a trial fails and none is interrupted, concurrent trials fail with a first one. -/
theorem EndsConcurrently.exists_error
    {workers trials trial : Int}
    {failure : Failure}
    {ending : Except Failure (List Classified)}
    (ends : EndsConcurrently outcome workers trials ending)
    (someWorker : 1 ≤ workers)
    (uninterrupted : Uninterrupted outcome trials)
    (nonnegative : 0 ≤ trial)
    (below : trial < trials)
    (fails : outcome trial = .error failure) :
    ∃ first cause,
      FailsFirst outcome workers trials first cause ∧ ending = .error cause := by
  cases ending with
  | error cause =>
      obtain ⟨first, failsFirst, -⟩ := ends
      exact ⟨first, cause, failsFirst, rfl⟩
  | ok collected =>
      obtain ⟨first, cause, failsFirst⟩ :=
        Pool.exists_failsFirst someWorker nonnegative below fails
      have interrupt := ends.1 first cause failsFirst
      have noInterrupt := uninterrupted first cause failsFirst.nonnegative
        failsFirst.below failsFirst.fails
      simp [interrupt] at noInterrupt

/--
Trials with settled outcomes, shared among any number of workers, on any machine and
so under any schedule. If no trial fails, the batch has the results that the trials
give one after the other: each once, in trial order. If some trial fails and none is
interrupted, the batch fails as well, with the failure of a trial that fails first in
its class; so it fails exactly when the trials fail one after the other.
-/
theorem concurrently_agrees_with_sequentially
    {trials workers : Int}
    (size : Int)
    (workspace otherWorkspace : Workspace)
    (someWorker : 1 ≤ workers)
    (settled : ∀ workspace trial, 0 ≤ trial → trial < trials →
      ((attempt scratch trial).run.perform machine workspace).1 = outcome trial) :
    let concurrent :=
      ((concurrently attempt size trials scratch workers).run.perform
        machine workspace).1
    let sequential :=
      ((sequentially attempt trials scratch (stride 0 trials 1) []).run.perform
        machine otherWorkspace).1
    ((∀ trial, 0 ≤ trial → trial < trials → ∃ found, outcome trial = .ok found) →
      concurrent = sequential ∧
        sequential = .ok ((stride 0 trials 1).filterMap (found? outcome))) ∧
    (Uninterrupted outcome trials →
      (∃ trial failure,
        0 ≤ trial ∧ trial < trials ∧ outcome trial = .error failure) →
      ∃ trial failure,
        FailsFirst outcome workers trials trial failure ∧
          concurrent = .error failure) ∧
    (Uninterrupted outcome trials →
      ((∃ failure, concurrent = .error failure) ↔
        ∃ failure, sequential = .error failure)) := by
  intro concurrent sequential
  have concurrentEnds : EndsConcurrently outcome workers trials concurrent :=
    concurrently_ends size workspace someWorker settled
  have sequentialEnds : EndsInOrder outcome (stride 0 trials 1) [] sequential :=
    sequentially_ends trials _ [] otherWorkspace fun workspace trial member =>
      settled workspace trial (mem_stride_one.1 member).1 (mem_stride_one.1 member).2
  refine ⟨?_, ?_, ?_⟩
  · intro succeed
    have inOrder := sequentialEnds.eq_ok fun trial member =>
      succeed trial (mem_stride_one.1 member).1 (mem_stride_one.1 member).2
    exact ⟨(concurrentEnds.eq_ok succeed).trans inOrder.symm, inOrder⟩
  · rintro uninterrupted ⟨trial, failure, nonnegative, below, fails⟩
    exact concurrentEnds.exists_error someWorker uninterrupted nonnegative below fails
  · intro uninterrupted
    constructor
    · rintro ⟨failure, failed⟩
      rw [failed] at concurrentEnds
      obtain ⟨trial, failsFirst, -⟩ := concurrentEnds
      exact sequentialEnds.exists_error
        (mem_stride_one.2 ⟨failsFirst.nonnegative, failsFirst.below⟩) failsFirst.fails
    · rintro ⟨failure, failed⟩
      rw [failed] at sequentialEnds
      obtain ⟨trial, member, fails⟩ := sequentialEnds
      obtain ⟨nonnegative, below⟩ := mem_stride_one.1 member
      obtain ⟨first, cause, -, same⟩ :=
        concurrentEnds.exists_error someWorker uninterrupted nonnegative below fails
      exact ⟨cause, same⟩

/-- Two workers share three trials, the second of which cannot be rendered. -/
theorem concurrently_fails_of_second_trial :
    let outcome : Int → Except Failure (Option Classified) := fun trial =>
      if trial = 1 then .error (.render .noDialect) else .ok none
    let attempt : Attempt := fun _ trial =>
      if trial = 1 then throw (.render .noDialect) else return none
    (1 : Int) ≤ 2 ∧
      (∀ workspace trial, 0 ≤ trial → trial < 3 →
        ((attempt ⟨.root, []⟩ trial).run.perform .calm workspace).1 = outcome trial) ∧
      Uninterrupted outcome 3 ∧
      ∃ trial failure,
        FailsFirst outcome 2 3 trial failure ∧
          ((concurrently attempt 5 3 ⟨.root, []⟩ 2).run.perform .calm ⟨.empty, "", [], 0, 0, 0⟩).1 =
            .error failure := by
  intro outcome attempt
  have settled : ∀ workspace trial, 0 ≤ trial → trial < 3 →
      ((attempt ⟨.root, []⟩ trial).run.perform .calm workspace).1 = outcome trial := by
    intro workspace trial _ _
    by_cases second : trial = 1
    · simp [attempt, outcome, second]
    · simp [attempt, outcome, second]
  have uninterrupted : Uninterrupted outcome 3 := by
    intro trial failure _ _ fails
    by_cases second : trial = 1
    · simp only [outcome, second, ↓reduceIte, Except.error.injEq] at fails
      subst fails
      rfl
    · simp [outcome, second] at fails
  refine ⟨by decide, settled, uninterrupted, ?_⟩
  exact (concurrently_agrees_with_sequentially 5 ⟨.empty, "", [], 0, 0, 0⟩
    ⟨.empty, "", [], 0, 0, 0⟩ (by decide) settled).2.1 uninterrupted
      ⟨1, .render .noDialect, by decide, by decide, rfl⟩

end Batch

end GrammarCorpus
