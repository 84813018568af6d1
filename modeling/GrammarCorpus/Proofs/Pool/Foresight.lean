import GrammarCorpus.Proofs.Pool.Agreement

namespace GrammarCorpus

open List

/-!
# Outcomes with hindsight

What a trial comes to may depend on the workspace it is made in: a call of the file system
may meet a fault, or it may not. But no trial is made twice in a run. So once a run has come
to its end there are outcomes, one for each trial, of which the run can be taken to have
been a run: the outcomes that its trials did have.

In this way, what is known about the endings of runs with settled outcomes is known about
all runs, and what is known about each trial is known about these outcomes.
-/

namespace Lane

variable {ε α : Type} {isInterrupt : ε → Bool} {outcome other : Int → Except ε (Option α)}

/-- A script depends on the outcomes of its own trials only. -/
theorem script_congr
    {worker : Int}
    {trials : List Int}
    (same : ∀ trial ∈ trials, outcome trial = other trial) :
    script isInterrupt outcome worker trials = script isInterrupt other worker trials := by
  induction trials with
  | nil => rfl
  | cons trial rest inductionHypothesis =>
      have later := inductionHypothesis fun next member => same next (List.mem_cons_of_mem _ member)
      rw [script, script, same trial List.mem_cons_self, later]

/-- What is awaited of a lane depends on the outcomes of its own trials only. -/
theorem future_congr
    {lane : Lane ε α}
    (same : ∀ trial ∈ lane.trials, outcome trial = other trial) :
    lane.future isInterrupt outcome = lane.future isInterrupt other := by
  rw [future, future, script_congr same]

end Lane

namespace Pool

variable {ε α : Type} {isInterrupt : ε → Bool} {outcome other : Int → Except ε (Option α)}
variable {lanes : List (Lane ε α)} {harvest : Harvest α} {ending : Except ε (Harvest α)}

/-- What is awaited depends on the outcomes of the trials that have not been made. -/
theorem awaited_congr
    (same : ∀ trial ∈ outstanding lanes, outcome trial = other trial) :
    awaited isInterrupt outcome lanes = awaited isInterrupt other lanes :=
  List.flatMap_congr fun _ member => Lane.future_congr fun trial inside =>
    same trial (List.mem_flatMap.2 ⟨_, member, inside⟩)

/-- The endings depend on the outcomes of the trials that have not been made. -/
theorem Ends.congr
    (ends : Ends isInterrupt outcome lanes harvest ending)
    (same : ∀ trial ∈ outstanding lanes, other trial = outcome trial) :
    Ends isInterrupt other lanes harvest ending := by
  cases ending with
  | ok final =>
      rw [Ends, awaited_congr same]
      exact ends
  | error failure =>
      rw [Ends, awaited_congr same]
      exact ends

/--
A run of a pool is a run with outcomes that its trials may have, whatever the workspaces
are in which they were made.
-/
theorem exists_outcome
    {machine : Machine}
    {May : Int → Except ε (Option α) → Prop}
    {pick : Work Nat}
    {attempt : Int → Work (Except ε (Option α))}
    {progress : Int → Work Unit}
    (isInterrupt : ε → Bool)
    (may : ∀ workspace trial, May trial ((attempt trial).perform machine workspace).1)
    (lanes : List (Lane ε α))
    (harvest : Harvest α)
    (workspace : Workspace)
    (distinct : (outstanding lanes).Nodup) :
    ∃ outcome,
      (∀ trial, May trial (outcome trial)) ∧
        Ends isInterrupt outcome lanes harvest
          ((run isInterrupt pick attempt progress lanes harvest).perform
            machine workspace).1 := by
  -- The weight of the lanes bounds the number of turns, as it does in `run` itself.
  induction bound : weight lanes using Nat.strongRecOn
    generalizing lanes harvest workspace with
  | _ bound inductionHypothesis =>
      subst bound
      -- Outcomes of trials that are not made any more may be any that they may have.
      have idle : ∀ trial, May trial ((attempt trial).perform machine workspace).1 :=
        may workspace
      unfold run
      rw [Work.perform_bind]
      split
      · rename_i ended
        exact ⟨_, idle, .of_nothing_awaited (keeps_of_turn _ ended)⟩
      · rename_i trial found after chosen
        have fewer := (keeps_of_turn (fun _ => .ok none) chosen).2
        obtain ⟨outcome, had, ends⟩ := inductionHypothesis _ (lighter_of_turn chosen) after
          (harvest.add trial found) _ (nodup_of_subperm fewer distinct) rfl
        exact ⟨outcome, had, ends.of_take (keeps_of_turn outcome chosen).1 (by simp) rfl⟩
      · rename_i trial failure after chosen
        exact ⟨_, idle, .of_fatal (keeps_of_turn _ chosen).1⟩
      · rename_i worker after chosen
        have fewer := (keeps_of_turn (fun _ => .ok none) chosen).2
        obtain ⟨outcome, had, ends⟩ := inductionHypothesis _ (lighter_of_turn chosen) after
          harvest _ (nodup_of_subperm fewer distinct) rfl
        exact ⟨outcome, had,
          ends.of_take (keeps_of_turn outcome chosen).1 (by simp) (by simp [Message.result?])⟩
      · rename_i after chosen
        have fewer := (keeps_of_turn (fun _ => .ok none) chosen).2
        obtain ⟨outcome, had, ends⟩ := inductionHypothesis _ (lighter_of_turn chosen) after
          harvest _ (nodup_of_subperm fewer distinct) rfl
        exact ⟨outcome, had, ends.of_perm (keeps_of_turn outcome chosen).1⟩
      · rename_i trial resume chosen
        rw [Work.perform_bind]
        generalize isMade : (attempt trial).perform machine
          (pick.perform machine workspace).2 = made
        have mayHave : May trial made.1 := isMade ▸ may _ trial
        have fewer := (keeps_of_turn (fun _ => made.1) chosen).2
        obtain ⟨notAgain, left⟩ := List.nodup_cons.1 (nodup_of_subperm fewer distinct)
        obtain ⟨outcome, had, ends⟩ := inductionHypothesis _ (lighter_of_turn chosen made.1)
          (resume made.1) harvest made.2 left rfl
        -- The trial is not made again, so that its outcome can be put in its place.
        refine ⟨Function.update outcome trial made.1, ?_, ?_⟩
        · intro other
          by_cases here : other = trial
          · subst here
            rwa [Function.update_self]
          · rw [Function.update_of_ne here]
            exact had other
        · have same := (keeps_of_turn (Function.update outcome trial made.1) chosen).1
          rw [Function.update_self] at same
          refine .of_perm same (ends.congr fun other member => ?_)
          refine Function.update_of_ne ?_ _ _
          rintro rfl
          exact notAgain member

end Pool

namespace Batch

open Pool (found?)

variable {machine : Machine} {attempt : Attempt} {scratch : Path}
variable {May : Int → Except Failure (Option Classified) → Prop}

/-- The endings depend on the outcomes of the trials that are made. -/
theorem EndsInOrder.congr
    {outcome other : Int → Except Failure (Option Classified)}
    {listed : List Int}
    {results : List Classified}
    {ending : Except Failure (List Classified)}
    (ends : EndsInOrder outcome listed results ending)
    (same : ∀ trial ∈ listed, other trial = outcome trial) :
    EndsInOrder other listed results ending := by
  cases ending with
  | ok collected =>
      obtain ⟨succeed, rfl⟩ := ends
      refine ⟨fun trial member => ?_, ?_⟩
      · rw [same trial member]
        exact succeed trial member
      · refine congrArg (results ++ ·) (List.filterMap_congr fun trial member => ?_)
        rw [found?, found?, same trial member]
  | error failure =>
      obtain ⟨trial, member, fails⟩ := ends
      exact ⟨trial, member, (same trial member).trans fails⟩

/-- Trials that are made one after the other had outcomes that they may have. -/
theorem sequentially_exists_outcome
    (may : ∀ workspace trial,
      May trial ((attempt scratch trial).run.perform machine workspace).1)
    (trials : Int)
    (listed : List Int)
    (results : List Classified)
    (workspace : Workspace)
    (distinct : listed.Nodup) :
    ∃ outcome,
      (∀ trial, May trial (outcome trial)) ∧
        EndsInOrder outcome listed results
          ((sequentially attempt trials scratch listed results).run.perform
            machine workspace).1 := by
  induction listed generalizing results workspace with
  | nil =>
      refine ⟨_, may workspace, ?_⟩
      simp [sequentially, EndsInOrder]
  | cons trial later inductionHypothesis =>
      obtain ⟨notAgain, left⟩ := List.nodup_cons.1 distinct
      rw [sequentially, Work.perform_run_bind]
      generalize isMade : (attempt scratch trial).run.perform machine workspace = made
      have mayHave : May trial made.1 := isMade ▸ may workspace trial
      cases ended : made.1 with
      | error failure =>
          exact ⟨_, may workspace, trial, List.mem_cons_self,
            (congrArg Prod.fst isMade).trans ended⟩
      | ok found =>
          simp only [Work.perform_run_bind, Work.perform_run_lift]
          obtain ⟨outcome, had, ends⟩ := inductionHypothesis (results ++ found.toList)
            ((progress trials (trial + 1)).perform machine made.2).2 left
          refine ⟨Function.update outcome trial made.1, ?_, ?_⟩
          · intro other
            by_cases here : other = trial
            · subst here
              rwa [Function.update_self]
            · rw [Function.update_of_ne here]
              exact had other
          · refine EndsInOrder.cons ((Function.update_self _ _ _).trans ended) ?_
            refine ends.congr fun other member => Function.update_of_ne ?_ _ _
            rintro rfl
            exact notAgain member

/-- Trials that are shared among workers had outcomes that they may have. -/
theorem concurrently_exists_outcome
    (may : ∀ workspace trial,
      May trial ((attempt scratch trial).run.perform machine workspace).1)
    {workers : Int}
    (someWorker : 1 ≤ workers)
    (size trials : Int)
    (workspace : Workspace) :
    ∃ outcome,
      (∀ trial, May trial (outcome trial)) ∧
        EndsConcurrently outcome workers trials
          ((concurrently attempt size trials scratch workers).run.perform
            machine workspace).1 := by
  obtain ⟨started, same⟩ :=
    perform_concurrently machine attempt scratch size trials workers workspace
  have toMake :
      Pool.outstanding (Pool.start trials workers : List (Lane Failure Classified)) ~
        stride 0 trials 1 :=
    Pool.outstanding_start_perm someWorker
  obtain ⟨outcome, had, ends⟩ := Pool.exists_outcome Failure.isInterrupt may
    (Pool.start trials workers) Harvest.empty started
    (toMake.nodup_iff.2 (stride_nodup Int.one_pos))
  exact ⟨outcome, had, same ▸ .of_ends someWorker ends⟩

/--
If trials come to their end and none is interrupted, one after the other or shared among
workers, each had an outcome that it may have, and the results are theirs in trial order.
-/
theorem results_exist_outcome
    {size trials workers : Int}
    {workspace : Workspace}
    {found : List Classified}
    (may : ∀ workspace trial,
      May trial ((attempt scratch trial).run.perform machine workspace).1)
    (uninterrupted : 1 < workers →
      ∀ trial failure, May trial (.error failure) → failure.isInterrupt = false)
    (ends : ((if 1 < workers then concurrently attempt size trials scratch workers
      else sequentially attempt trials scratch (stride 0 trials 1) []).run.perform
        machine workspace).1 = .ok found) :
    ∃ outcome,
      (∀ trial, May trial (outcome trial)) ∧
        (∀ trial, 0 ≤ trial → trial < trials → ∃ result, outcome trial = .ok result) ∧
        found = (stride 0 trials 1).filterMap (found? outcome) := by
  split at ends
  · rename_i shared
    have someWorker : 1 ≤ workers := by omega
    obtain ⟨outcome, had, endsSo⟩ :=
      concurrently_exists_outcome may someWorker size trials workspace
    rw [ends] at endsSo
    obtain ⟨onlyInterrupts, results⟩ := endsSo
    have succeed : ∀ trial, 0 ≤ trial → trial < trials →
        ∃ result, outcome trial = .ok result := by
      intro trial nonnegative below
      cases ended : outcome trial with
      | ok result => exact ⟨result, rfl⟩
      | error failure =>
          obtain ⟨first, cause, failsFirst⟩ :=
            Pool.exists_failsFirst someWorker nonnegative below ended
          have interrupt := onlyInterrupts first cause failsFirst
          have noInterrupt := uninterrupted shared first cause (failsFirst.fails ▸ had first)
          rw [interrupt] at noInterrupt
          cases noInterrupt
    exact ⟨outcome, had, succeed, results succeed⟩
  · obtain ⟨outcome, had, endsSo⟩ := sequentially_exists_outcome may trials (stride 0 trials 1) []
      workspace (stride_nodup Int.one_pos)
    rw [ends] at endsSo
    obtain ⟨succeed, results⟩ := endsSo
    refine ⟨outcome, had, fun trial nonnegative below => ?_, results⟩
    exact succeed trial (mem_stride_one.2 ⟨nonnegative, below⟩)

end Batch

end GrammarCorpus
