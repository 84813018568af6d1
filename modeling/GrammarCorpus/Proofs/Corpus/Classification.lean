import GrammarCorpus.Proofs.Corpus.Classes

namespace GrammarCorpus

/-!
# A batch classifies without loss

A batch that comes to its end has a partition of exactly the grammars that its trials
draw, and the tree has gained exactly one file for each membership in a class. This holds
for every output path, also for one that turns back from a place that is missing, and for
whatever faults are met on the way.
-/

open FileTree Work

namespace Partition

/-- The trials whose grammars are in a class. -/
def trialsOf (partition : Partition) (corpusClass : CorpusClass) : List Int :=
  (partition.members corpusClass).map Classified.trial

/--
The partition has all grammars that trials below a number draw, and each class lists, in
order, the trials whose grammars the three engines accept in its way.
-/
structure Sorts
    (machine : Machine)
    (config : Config)
    (size trials : Int)
    (partition : Partition) : Prop where
  size_eq : partition.size = size
  total_eq : partition.total = ((stride 0 trials 1).filter (config.draws size)).length
  ordered : ∀ corpusClass, (partition.trialsOf corpusClass).Pairwise (· < ·)
  mem_lr1 : ∀ trial, trial ∈ partition.trialsOf .lr1 ↔
    (0 ≤ trial ∧ trial < trials ∧ config.draws size trial = true) ∧
      config.accepts machine size trial .strict = true ∧
        config.accepts machine size trial .reference = true
  mem_lrK : ∀ trial, trial ∈ partition.trialsOf .lrK ↔
    (0 ≤ trial ∧ trial < trials ∧ config.draws size trial = true) ∧
      config.accepts machine size trial .relaxed = true ∧
        config.accepts machine size trial .strict = false
  mem_disputed : ∀ trial, trial ∈ partition.trialsOf .disputed ↔
    (0 ≤ trial ∧ trial < trials ∧ config.draws size trial = true) ∧
      (config.accepts machine size trial .strict ≠
          config.accepts machine size trial .reference ∨
        config.accepts machine size trial .strict = true ∧
          config.accepts machine size trial .relaxed = false)
  exclusive : ∀ trial, trial ∈ partition.trialsOf .lr1 → trial ∉ partition.trialsOf .lrK
  in_none_iff : ∀ trial, 0 ≤ trial → trial < trials → config.draws size trial = true →
    ((∀ corpusClass, trial ∉ partition.trialsOf corpusClass) ↔
      ∀ role, config.accepts machine size trial role = false)
  at_most_two : ∀ trial,
    CorpusClass.all.countP (fun corpusClass => trial ∈ partition.trialsOf corpusClass) ≤ 2
  texts : ∀ corpusClass, ∀ classified ∈ partition.members corpusClass, ∃ grammar,
    config.trialGrammar size classified.trial = .ok (some grammar) ∧
      grammar.canonical? = some classified.text

end Partition

namespace Batch

variable {machine : Machine} {attempt : Attempt} {property : Classified → Prop}
variable {config : Config} {size trials workers : Int} {output : Path} {first : Nat}
variable {workspace : Workspace} {partition : Partition}

/-- What a class takes is what it lists. -/
theorem Settled.mem_trialsOf
    {found : List Classified}
    (settled : Settled machine config size trials found)
    (corpusClass : CorpusClass)
    (trial : Int) :
    trial ∈ (Partition.ofResults size trials found).trialsOf corpusClass ↔
      (0 ≤ trial ∧ trial < trials ∧ config.draws size trial = true) ∧
        corpusClass.takes (config.accepts machine size trial) = true := by
  rw [Partition.trialsOf, settled.trials_members, List.mem_filter, mem_stride_one,
    Bool.and_eq_true]
  simp only [and_assoc]

/-- What the trials settle is sorted into classes. -/
theorem Settled.sorts
    {found : List Classified}
    (settled : Settled machine config size trials found) :
    (Partition.ofResults size trials found).Sorts machine config size trials where
  size_eq := rfl
  total_eq := by
    rw [← settled.trials_eq, List.length_map]
    rfl
  ordered corpusClass := by
    rw [Partition.trialsOf, settled.trials_members]
    exact (stride_pairwise_lt Int.one_pos).filter _
  mem_lr1 trial := by
    rw [settled.mem_trialsOf]
    simp [CorpusClass.takes]
  mem_lrK trial := by
    rw [settled.mem_trialsOf]
    simp [CorpusClass.takes]
  mem_disputed trial := by
    rw [settled.mem_trialsOf]
    simp [CorpusClass.takes]
  exclusive trial inLr1 inLrK := by
    rw [settled.mem_trialsOf] at inLr1 inLrK
    simp only [CorpusClass.takes, Bool.and_eq_true, Bool.not_eq_true'] at inLr1 inLrK
    cases inLr1.2.1.symm.trans inLrK.2.2
  in_none_iff trial nonnegative below draws := by
    simp only [settled.mem_trialsOf, nonnegative, below, draws, and_self, true_and,
      Bool.not_eq_true]
    exact CorpusClass.takes_eq_false_iff _
  at_most_two trial := by
    refine (List.countP_mono_left fun corpusClass _ listed => ?_).trans
      (CorpusClass.countP_takes_le (config.accepts machine size trial))
    exact ((settled.mem_trialsOf corpusClass trial).1 (of_decide_eq_true listed)).2
  texts corpusClass classified member := by
    rw [Partition.members_ofResults] at member
    obtain ⟨grammar, judges⟩ := settled.judged classified (List.mem_filter.1 member).1
    exact ⟨grammar, judges.drawn, judges.rendered⟩

/-- What is done in the scratch directory gains the files of a partition. -/
theorem work_gains
    {old : FileTree}
    {scratch : ScratchDirectory machine old}
    {entered : Workspace}
    (apart : machine.NamesApart)
    (avoids : machine.Avoids size)
    (home : old.isDirectory machine.directory = true)
    (unreserved : output.Unreserved machine first)
    (attempts : ∀ trial ∈ stride 0 trials 1, KeepsOrFails machine (scratch.Contains first)
      (fun found => ∀ classified ∈ found, property classified) (attempt scratch.path trial))
    (contains : scratch.Contains first entered)
    (done : ((work attempt size trials output workers scratch.path).run.perform machine
      entered).1 = .ok partition) :
    let after := ((work attempt size trials output workers scratch.path).run.perform machine
      entered).2.tree
    partition.size = size ∧ ∃ between number,
      scratch.Holds between ∧
        after.Grounded ∧
        Gains machine.directory output between after
          (partition.files output machine.names number) := by
  intro after
  have shape : (work attempt size trials output workers scratch.path).run.perform machine
      entered = _ := perform_run_bind _ _ machine entered
  obtain ⟨containsThen, -⟩ := results_keeps attempts size workers entered contains
  generalize (results attempt size trials workers scratch.path).run.perform machine entered =
    made at shape containsThen
  cases ended : made.1 with
  | error failure =>
      rw [ended] at shape
      rw [shape] at done
      cases done
  | ok found =>
      rw [ended] at shape
      simp only [perform_run_bind] at shape
      have gains := @Store.persist_gains machine made.2 output (.ofResults size trials found)
        first
      generalize (Store.persist (.ofResults size trials found) output).run.perform machine
        made.2 = stored at shape gains
      cases storing : stored.1 with
      | error failure =>
          rw [storing] at shape
          rw [shape] at done
          cases done
      | ok placements =>
          rw [storing] at shape
          rw [shape] at done
          cases done
          obtain ⟨grounded, gained⟩ := gains apart avoids containsThen.tidy
            containsThen.holds.grounded (containsThen.holds.within.isDirectory home) unreserved
            storing
          have same : after = stored.2.tree := by
            unfold after
            rw [shape]
            rfl
          rw [same]
          exact ⟨rfl, made.2.tree, _, containsThen.holds, grounded, gained⟩

variable {parent : Option String}

/-- What a batch gains, up to its message. -/
theorem within_gains
    (apart : machine.NamesApart)
    (avoids : machine.Avoids size)
    (tidy : workspace.Tidy machine first)
    (grounded : workspace.tree.Grounded)
    (home : workspace.tree.isDirectory machine.directory = true)
    (unreserved : output.Unreserved machine first)
    (unreservedParent :
      (Path.ofText (parent.getD machine.temporary)).Unreserved machine first)
    (attempts : Attempts machine attempt trials first property)
    (done : ((Scratch.within Failure.blaming parent
      (work attempt size trials output workers)).run.perform machine workspace).1 =
        .ok partition) :
    let after := ((Scratch.within Failure.blaming parent
      (work attempt size trials output workers)).run.perform machine workspace).2.tree
    ∃ number, Gains machine.directory output workspace.tree after
      (partition.files output machine.names number) := by
  intro after
  rcases Scratch.within_cases apart tidy grounded Failure.blaming parent
      (work attempt size trials output workers) with
    ⟨failure, failed, -⟩ |
    ⟨scratch, entered, isPath, begun, numbered, contains, worked, performed, ending⟩
  · cases failed.symm.trans done
  have later : first ≤ scratch.number := Nat.le_trans tidy.begun begun
  have further : first ≤ entered.named := Nat.le_trans later (Nat.le_of_lt numbered)
  have scratchUnreserved := scratch.unreserved_path apart unreservedParent isPath further numbered
  rcases ending with ⟨failure, failed, ends⟩ | ⟨other, succeeds, failing, succeeding⟩
  · cases (congrArg Prod.fst ends).symm.trans done
  have worksOut := succeeds
  rw [← performed] at worksOut
  obtain ⟨isOfSize, between, number, holds, groundedThen, gained⟩ := work_gains apart avoids home
    (unreserved.of_le further) (attempts scratch entered.named further scratchUnreserved)
    contains worksOut
  rw [performed] at groundedThen gained
  have reserved : machine.Reserves first scratch.name :=
    ⟨scratch.number, later, .inr (.inr rfl)⟩
  have there := gained.kept.isDirectory holds.there
  have leads := ScratchDirectory.resolve_path
    (fun place entry found => gained.kept place entry (holds.within place entry found))
    groundedThen there
  rcases FileWork.removeTree_cases scratch.handed leads there with
    ⟨-, error, failed, -⟩ | ⟨removed, pruned⟩
  · cases (congrArg Prod.fst (failing _ failed)).symm.trans done
  have ends := succeeding removed
  cases (congrArg Prod.fst ends).symm.trans done
  subst isOfSize
  have gone : after = worked.2.tree.prune scratch.place :=
    (congrArg (fun result => result.2.tree) ends).trans pruned
  rw [gone]
  exact ⟨number, holds.gains gained
    (fun member => (tidy.home _ member).notReserved reserved)
    (fun member => unreserved _ member reserved)
    (Partition.scratch_not_mem_files apart avoids (unreserved.of_le later))⟩

/-- What a batch gains, when it comes to its end. -/
theorem runWith_gains
    (apart : machine.NamesApart)
    (avoids : machine.Avoids size)
    (tidy : workspace.Tidy machine first)
    (grounded : workspace.tree.Grounded)
    (home : workspace.tree.isDirectory machine.directory = true)
    (unreserved : output.Unreserved machine first)
    (unreservedParent :
      (Path.ofText (parent.getD machine.temporary)).Unreserved machine first)
    (attempts : Attempts machine attempt trials first property)
    (done : ((runWith attempt parent size trials output workers).run.perform machine
      workspace).1 = .ok partition) :
    let after := ((runWith attempt parent size trials output workers).run.perform machine
      workspace).2.tree
    ∃ number, Gains machine.directory output workspace.tree after
      (partition.files output machine.names number) := by
  rw [runWith_eq, perform_run_bind] at done ⊢
  cases ended : ((Scratch.within Failure.blaming parent
      (work attempt size trials output workers)).run.perform machine workspace).1 with
  | error failure =>
      simp only [ended] at done
      cases done
  | ok given =>
      simp only [ended] at done ⊢
      cases done
      obtain ⟨number, gained⟩ :=
        within_gains apart avoids tidy grounded home unreserved unreservedParent attempts ended
      generalize (Scratch.within Failure.blaming parent
        (work attempt size trials output workers)).run.perform machine workspace = left
        at gained ⊢
      exact ⟨number, gained⟩

/--
A batch that comes to its end has classified without loss: its partition sorts what its
trials draw, and the tree has gained exactly the files of the partition. The directory
that scratch directories are made in has the entries that it had, except those on the way
to these files.
-/
theorem run_classifies
    (apart : machine.NamesApart)
    (avoids : ∀ value ∈ numbers size trials, machine.Avoids value)
    (tidy : workspace.Tidy machine first)
    (grounded : workspace.tree.Grounded)
    (home : workspace.tree.isDirectory machine.directory = true)
    (unreserved : output.Unreserved machine first)
    (unreservedParent :
      (Path.ofText (config.scratchRoot.getD machine.temporary)).Unreserved machine first)
    (allows : machine.Allows machine.engines)
    (undisturbed : 1 < workers → machine.Undisturbed)
    (given : ((run config size trials output workers).run.perform machine workspace).1 =
      .ok partition) :
    let after := ((run config size trials output workers).run.perform machine workspace).2.tree
    partition.Sorts machine config size trials ∧
      ∃ number,
        let files := partition.files output machine.names number
        Gains machine.directory output workspace.tree after files ∧
          ∀ parent,
            workspace.tree.resolve machine.directory
                (Path.ofText (config.scratchRoot.getD machine.temporary)) = .ok parent →
              ∀ name,
                (files ≠ [] →
                  ¬ after.OnTheWay machine.directory output files (name :: parent)) →
                after.find? (name :: parent) = workspace.tree.find? (name :: parent) := by
  intro after
  obtain ⟨avoidsSize, avoidsTrials⟩ := List.forall_mem_cons.1 avoids
  have attempts : Attempts machine (Trial.run config size) trials first fun _ => True :=
    attempts_of_judges apart avoidsTrials allows fun _ _ _ => trivial
  obtain ⟨number, gains⟩ := runWith_gains apart avoidsSize tidy grounded home unreserved
    unreservedParent attempts given
  obtain ⟨found, settled, rfl⟩ := exists_settled undisturbed given
  exact ⟨settled.sorts, number, gains, fun parent _ name aside => gains.find?_eq aside⟩

/--
A single trial in an empty tree: its grammar is accepted by the two engines for LR(1) and
refused by the third, so it is stored twice.
-/
theorem run_classifies_single :
    let start : Workspace := { tree := .empty }
    let output : Path := ⟨.relative, ["out"]⟩
    ∃ partition,
      (Machine.calm.NamesApart ∧
        (∀ value ∈ numbers 2 1, Machine.calm.Avoids value) ∧
        start.Tidy .calm 0 ∧
        start.tree.Grounded ∧
        start.tree.isDirectory Machine.calm.directory = true ∧
        output.Unreserved .calm 0 ∧
        (Path.ofText (Config.chanceless.scratchRoot.getD Machine.calm.temporary)).Unreserved
          .calm 0 ∧
        Machine.calm.Allows Machine.calm.engines ∧
        ((1 : Int) < 1 → Machine.calm.Undisturbed) ∧
        ((run .chanceless 2 1 output 1).run.perform .calm start).1 = .ok partition) ∧
      partition.Sorts .calm .chanceless 2 1 ∧
        ∃ number,
          let after := ((run .chanceless 2 1 output 1).run.perform .calm start).2.tree
          let files := partition.files output Machine.calm.names number
          Gains [] output start.tree after files ∧
            ∀ parent,
              start.tree.resolve []
                  (Path.ofText (Config.chanceless.scratchRoot.getD Machine.calm.temporary)) =
                    .ok parent →
                ∀ name,
                  (files ≠ [] → ¬ after.OnTheWay [] output files (name :: parent)) →
                  after.find? (name :: parent) = start.tree.find? (name :: parent) := by
  intro start output
  have succeeds : ((run .chanceless 2 1 output 1).run.perform .calm start).1.isOk = true := by
    rw [run_of_settles Config.generate_chanceless]
    decide +kernel
  cases given : ((run .chanceless 2 1 output 1).run.perform .calm start).1 with
  | error failure =>
      rw [given] at succeeds
      cases succeeds
  | ok partition =>
      have grounded : start.tree.Grounded := fun _ _ holds => nomatch holds
      have unreserved : output.Unreserved .calm 0 := .of_calm rfl
      have unreservedParent : (Path.ofText (Config.chanceless.scratchRoot.getD
          Machine.calm.temporary)).Unreserved .calm 0 := .of_nil (by decide)
      exact ⟨partition,
        ⟨Machine.calm_namesApart, fun value _ => Machine.calm_avoids value, .of_empty rfl, grounded,
          rfl, unreserved, unreservedParent, nofun, nofun, rfl⟩,
        run_classifies Machine.calm_namesApart (fun value _ => Machine.calm_avoids value)
          (.of_empty rfl) grounded rfl unreserved unreservedParent nofun nofun given⟩

/--
Where the corpus itself lies in the directory for scratch directories, this directory does
not have the same entries afterwards.
-/
theorem run_adds_to_scratch_parent :
    let start : Workspace := { tree := .empty }
    let output : Path := ⟨.relative, ["out"]⟩
    let result := (run .chanceless 2 1 output 1).run.perform .calm start
    result.1.isOk = true ∧
      start.tree.resolve []
          (Path.ofText (Config.chanceless.scratchRoot.getD Machine.calm.temporary)) = .ok [] ∧
      start.tree.names [] = [] ∧
      result.2.tree.names [] = ["out"] := by
  intro start output result
  have shape : result = _ := congrArg (fun job => job.run.perform Machine.calm start)
    (run_of_settles Config.generate_chanceless 1 1 output)
  rw [shape]
  decide +kernel

end Batch

end GrammarCorpus
