import GrammarCorpus.Proofs.Corpus.History
import GrammarCorpus.Proofs.Corpus.Reproducibility

namespace GrammarCorpus

/-!
# Runs that are aborted

A batch that fails takes back all that it has done. Only its own directories are cleared
away in the end, when the corpus is there already: a batch that fails then leaves it whole.

A run makes its batches size by size and ends with the first that fails. What was stored
for the sizes before stays. So if clearing away works, the tree is the one that a run over
the completed sizes leaves by itself.
-/

open FileTree Work

namespace Partition

/-- What a survey can find out about a partition is told of its classes. -/
theorem labels_eq_accounts (partition : Partition) :
    partition.labels = CorpusClass.all.flatMap fun corpusClass =>
      (partition.accounts corpusClass).map fun account =>
        (corpusClass, partition.size, account.text) := by
  unfold labels contents accounts
  rw [List.map_flatMap]
  simp only [List.map_map]
  rfl

end Partition

/-- What is stored of partitions has their sizes. -/
theorem Stocked.size_mem
    {machine : Machine}
    {output : Path}
    {before after : FileTree}
    {partitions : List Partition}
    {stock : List Holding}
    {holding : Holding}
    (stocked :
      Stocked machine output before after (partitions.flatMap Partition.labels) stock)
    (member : holding ∈ stock) :
    holding.size ∈ partitions.map Partition.size := by
  have isLabel : holding.label ∈ stock.map Holding.label := List.mem_map_of_mem member
  rw [stocked.labels_eq] at isLabel
  obtain ⟨partition, isPartition, inside⟩ := List.mem_flatMap.1 isLabel
  obtain ⟨item, -, whole⟩ := List.mem_map.1 inside
  have sameSize : partition.size = holding.size := congrArg (fun label => label.2.1) whole
  exact List.mem_map.2 ⟨partition, isPartition, sameSize⟩

namespace Config

/-- What a survey can find out about the grammars that the trials of a size settle. -/
def settledLabels (config : Config) (machine : Machine) (trials size : Int) :
    List (CorpusClass × Int × String) :=
  CorpusClass.all.flatMap fun corpusClass =>
    (((stride 0 trials 1).filterMap (config.account? machine size)).filter fun account =>
      corpusClass.takes account.accepted).map fun account => (corpusClass, size, account.text)

/-- Where the engines reply alike, the trials settle the same. -/
theorem settledLabels_congr
    {config : Config}
    {machine other : Machine}
    (replies : machine.RepliesLike other)
    (trials size : Int) :
    config.settledLabels other trials size = config.settledLabels machine trials size := by
  have like : config.DrawsLike config := by constructor <;> rfl
  unfold settledLabels
  rw [show config.account? machine size = config.account? other size from
    funext fun trial => account?_congr like replies size trial]

end Config

/-- A machine on which nothing goes wrong but one call of the file system. -/
def Machine.faltering (call : Nat) : Machine :=
  { Machine.calm with faults := fun number => if number = call then some ⟨⟨16⟩, false⟩ else none }

/-- The empty tree is ready for a corpus, where the names are rows of one letter. -/
theorem Workspace.Ready.of_empty
    {machine : Machine}
    (root : machine.directory = [])
    (named : machine.names = Machine.calm.names) :
    ({ tree := .empty } : Workspace).Ready machine ⟨.relative, ["out"]⟩ 0 where
  tidy := .of_empty root
  grounded _ _ holds := nomatch holds
  home := by rw [root]; rfl
  straight := by
    intro before after whole
    have turns : ".." ∈ ["out"] := by
      rw [show ["out"] = _ from whole]
      simp
    exact absurd turns (by decide)
  unreserved := .of_calm named

/-- If an alphabet is too small for a size, a trial has no grammar to draw from. -/
theorem Config.trialGrammar_of_small
    {config : Config}
    {size : Int}
    (least : 2 ≤ size)
    (small : config.maxSize < size)
    (trial : Int) :
    config.trialGrammar size trial = .error (.alphabetTooSmall size) := by
  unfold trialGrammar
  generalize Mersenne.ofSeed (config.trialSeed size trial) = state
  unfold generate selectAlphabet
  rw [if_neg (Int.not_lt.2 least), if_pos small]
  rfl

/-- Then every trial fails by that. -/
theorem Trial.run_of_small
    {config : Config}
    {size : Int}
    (least : 2 ≤ size)
    (small : config.maxSize < size) :
    run config size = fun _ _ => throw (.generation (.alphabetTooSmall size)) := by
  funext scratch trial
  unfold run
  rw [Config.trialGrammar_of_small least small]

namespace Batch

variable {machine : Machine} {config : Config} {size trials workers : Int} {output : Path}
variable {begun : Nat} {workspace : Workspace}

/-- A batch comes to one of its ends; what it stores are grammars that trials have drawn. -/
theorem run_comesTo
    (apart : machine.NamesApart)
    (avoids : ∀ value ∈ numbers size trials, machine.Avoids value)
    (ready : workspace.Ready machine output begun)
    (unreservedParent :
      (Path.ofText (config.scratchRoot.getD machine.temporary)).Unreserved machine begun)
    (allows : machine.Allows machine.engines) :
    ComesTo machine
      (fun classified => ∃ grammar, Trial.Judges machine config size classified grammar)
      output begun config.scratchRoot size workspace.tree
      ((run config size trials output workers).run.perform machine workspace) :=
  have ⟨avoidsSize, avoidsTrials⟩ := List.forall_mem_cons.1 avoids
  runWith_comesTo apart avoidsSize ready.tidy ready.grounded ready.home ready.straight
    ready.unreserved unreservedParent
    (attempts_of_judges apart avoidsTrials allows fun _ grammar judges => ⟨grammar, judges⟩)
    workers

/-- A batch that gives a partition has stored its grammars, and the run can go on. -/
theorem run_stocked
    {partition : Partition}
    (apart : machine.NamesApart)
    (avoids : ∀ value ∈ numbers size trials, machine.Avoids value)
    (ready : workspace.Ready machine output begun)
    (unreservedParent :
      (Path.ofText (config.scratchRoot.getD machine.temporary)).Unreserved machine begun)
    (allows : machine.Allows machine.engines)
    (given : ((run config size trials output workers).run.perform machine workspace).1 =
      .ok partition) :
    let after := ((run config size trials output workers).run.perform machine workspace).2
    partition.size = size ∧
      after.Ready machine output begun ∧
      ∃ stock, Stocked machine output workspace.tree after.tree partition.labels stock := by
  intro after
  rcases run_comesTo apart avoids ready unreservedParent allows with
    ⟨failure, failed, -⟩ | ⟨-, failure, failed, -⟩ | ⟨other, givenOther, tidy, delivered⟩
  · cases failed.symm.trans given
  · cases failed.symm.trans given
  · cases givenOther.symm.trans given
    obtain ⟨stock, stocked⟩ := delivered.stocked
    exact ⟨delivered.size_eq, ready.of_receives tidy stocked.receives, stock, stocked⟩

/-- A batch that fails takes back what it has done, if clearing away works. -/
theorem run_same
    {failure : Failure}
    (apart : machine.NamesApart)
    (avoids : ∀ value ∈ numbers size trials, machine.Avoids value)
    (ready : workspace.Ready machine output begun)
    (unreservedParent :
      (Path.ofText (config.scratchRoot.getD machine.temporary)).Unreserved machine begun)
    (allows : machine.Allows machine.engines)
    (failed : ((run config size trials output workers).run.perform machine workspace).1 =
      .error failure)
    (cleared : machine.Faultless ∨ ¬ failure.IsUncleared machine output config.scratchRoot) :
    workspace.tree.Same
      ((run config size trials output workers).run.perform machine workspace).2.tree := by
  rcases run_comesTo apart avoids ready unreservedParent allows with
    ⟨other, -, same, -⟩ | ⟨faulty, other, failedOther, uncleared, -⟩ | ⟨partition, given, -⟩
  · exact same
  · cases failedOther.symm.trans failed
    exact absurd uncleared (cleared.resolve_left faulty)
  · cases given.symm.trans failed

/--
A batch that fails has written nothing: the tree is as it was. There is one exception. If
the staging directory or the scratch directory cannot be cleared away in the end, the
failure tells its path, and beside this directory the corpus of the batch is there already.
-/
theorem run_takes_back
    {failure : Failure}
    (apart : machine.NamesApart)
    (avoids : ∀ value ∈ numbers size trials, machine.Avoids value)
    (ready : workspace.Ready machine output begun)
    (unreservedParent :
      (Path.ofText (config.scratchRoot.getD machine.temporary)).Unreserved machine begun)
    (allows : machine.Allows machine.engines)
    (failed : ((run config size trials output workers).run.perform machine workspace).1 =
      .error failure) :
    let after := ((run config size trials output workers).run.perform machine workspace).2
    workspace.tree.Same after.tree ∨
      ¬ machine.Faultless ∧
        failure.IsUncleared machine output config.scratchRoot ∧
        ∃ path cause,
          failure = .batch path.text cause ∧
            DeliveredBeside machine output
              (fun classified => ∃ grammar, Trial.Judges machine config size classified grammar)
              size path workspace.tree after.tree := by
  intro after
  rcases run_comesTo apart avoids ready unreservedParent allows with
    ⟨other, -, same, -⟩ | ⟨faulty, other, failedOther, uncleared, beside⟩ |
    ⟨partition, given, -⟩
  · exact .inl same
  · cases failedOther.symm.trans failed
    exact .inr ⟨faulty, uncleared, beside⟩
  · cases given.symm.trans failed

/-- The staging directory of a batch of one trial cannot be removed. -/
theorem run_takes_back_of_fault :
    let start : Workspace := { tree := .empty }
    let output : Path := ⟨.relative, ["out"]⟩
    ∃ failure,
      ((Machine.faltering 27).NamesApart ∧
        (∀ value ∈ numbers 2 1, (Machine.faltering 27).Avoids value) ∧
        start.Ready (.faltering 27) output 0 ∧
        (Path.ofText (Config.chanceless.scratchRoot.getD
          (Machine.faltering 27).temporary)).Unreserved (.faltering 27) 0 ∧
        (Machine.faltering 27).Allows (Machine.faltering 27).engines ∧
        ((run .chanceless 2 1 output 1).run.perform (.faltering 27) start).1 =
          .error failure) ∧
      (start.tree.Same
          ((run .chanceless 2 1 output 1).run.perform (.faltering 27) start).2.tree ∨
        ¬ (Machine.faltering 27).Faultless ∧
          failure.IsUncleared (.faltering 27) output Config.chanceless.scratchRoot ∧
          ∃ path cause,
            failure = .batch path.text cause ∧
              DeliveredBeside (.faltering 27) output
                (fun classified => ∃ grammar,
                  Trial.Judges (.faltering 27) .chanceless 2 classified grammar)
                2 path start.tree
                ((run .chanceless 2 1 output 1).run.perform (.faltering 27) start).2.tree) := by
  intro start output
  have fails : ((run .chanceless 2 1 output 1).run.perform (.faltering 27) start).1.isOk =
      false := by
    rw [run_of_settles Config.generate_chanceless]
    decide +kernel
  cases failed : ((run .chanceless 2 1 output 1).run.perform (.faltering 27) start).1 with
  | ok partition =>
      rw [failed] at fails
      cases fails
  | error failure =>
      have apart : (Machine.faltering 27).NamesApart := { Machine.calm_namesApart with }
      have ready : start.Ready (.faltering 27) output 0 := .of_empty rfl rfl
      have unreservedParent : (Path.ofText (Config.chanceless.scratchRoot.getD
          (Machine.faltering 27).temporary)).Unreserved (.faltering 27) 0 :=
        .of_nil (by decide)
      have avoids : ∀ value ∈ numbers 2 1, (Machine.faltering 27).Avoids value :=
        fun value _ => Machine.calm_avoids value
      exact ⟨failure, ⟨apart, avoids, ready, unreservedParent, nofun, rfl⟩,
        run_takes_back apart avoids ready unreservedParent nofun failed⟩

/--
Behind a batch that fails as one of its own directories cannot be removed, the grammar of
its trial is there, in each of its classes, where there was nothing before.
-/
theorem run_fails_behind_corpus :
    let start : Workspace := { tree := .empty }
    let output : Path := ⟨.relative, ["out"]⟩
    start.tree.names [] = [] ∧
      ∀ call ∈ [27, 28],
        let result := (run .chanceless 2 1 output 1).run.perform (.faltering call) start
        (match result.1 with
          | .error (.batch _ _) => true
          | _ => false) = true ∧
        ["xxx", "2", "lr1", "out"] ∈ result.2.tree.entries.map Prod.fst ∧
        ["xxxx", "2", "disputed", "out"] ∈ result.2.tree.entries.map Prod.fst := by
  intro start output
  rw [run_of_settles Config.generate_chanceless]
  decide +kernel

end Batch

namespace Corpus

variable {machine : Machine} {config : Config} {first last trials workers : Int}
variable {output : Path} {workspace : Workspace} {partitions : List Partition} {begun : Nat}

/-- The partitions of a run have what the trials of each size settle. -/
theorem generate_labels
    (undisturbed : 1 < workers → machine.Undisturbed)
    (given : ((generate config first last trials output workers).run.perform
      machine workspace).1 = .ok partitions) :
    partitions.flatMap Partition.labels =
      (stride first last 1).flatMap (config.settledLabels machine trials) := by
  obtain ⟨sizes, each⟩ := generate_settled undisturbed given
  rw [← sizes, List.flatMap_map]
  refine List.flatMap_congr fun partition member => ?_
  obtain ⟨found, settled, sorted⟩ := each partition member
  have accounts := settled.accounts_eq_filter
  rw [← sorted] at accounts
  rw [partition.labels_eq_accounts]
  unfold Config.settledLabels
  exact List.flatMap_congr fun corpusClass _ => by rw [accounts corpusClass]

/-- Runs over the same sizes and trials store the same, where the engines reply alike. -/
theorem generate_labels_congr
    {other : Machine}
    {start : Workspace}
    {otherWorkers : Int}
    {otherPartitions : List Partition}
    (replies : machine.RepliesLike other)
    (undisturbed : 1 < workers → machine.Undisturbed)
    (undisturbedOther : 1 < otherWorkers → other.Undisturbed)
    (given : ((generate config first last trials output workers).run.perform
      machine workspace).1 = .ok partitions)
    (givenOther : ((generate config first last trials output otherWorkers).run.perform
      other start).1 = .ok otherPartitions) :
    otherPartitions.flatMap Partition.labels = partitions.flatMap Partition.labels := by
  have agree : config.settledLabels other trials = config.settledLabels machine trials :=
    funext fun size => Config.settledLabels_congr replies trials size
  rw [generate_labels undisturbedOther givenOther, generate_labels undisturbed given, agree]

/-- Batches in a row end with the first that fails, after all in front of it are made. -/
theorem batches_fails
    {batch : Int → Job Partition}
    {sizes : List Int}
    {before : List Partition}
    {failure : Failure}
    (failed : ((batches batch sizes before).run.perform machine workspace).1 =
      .error failure) :
    ∃ earlier size later made,
      sizes = earlier ++ size :: later ∧
        ((batches batch earlier before).run.perform machine workspace).1 = .ok made ∧
        (batch size).run.perform machine
            ((batches batch earlier before).run.perform machine workspace).2 =
          (.error failure, ((batches batch sizes before).run.perform machine workspace).2) := by
  induction sizes generalizing before workspace with
  | nil => cases failed
  | cons size later inductionHypothesis =>
      have step : ∀ others, (batches batch (size :: others) before).run.perform machine
          workspace = _ := fun others => perform_run_bind _ _ machine workspace
      rw [step] at failed ⊢
      cases ended : ((batch size).run.perform machine workspace).1 with
      | error other =>
          simp only [ended] at failed ⊢
          cases failed
          exact ⟨[], size, later, before, rfl, rfl, Prod.ext ended rfl⟩
      | ok partition =>
          simp only [ended] at failed ⊢
          obtain ⟨earlier, other, rest, made, rfl, given, fails⟩ := inductionHypothesis failed
          refine ⟨size :: earlier, other, rest, made, rfl, ?_, ?_⟩
          · rw [step]
            simp only [ended]
            exact given
          · rw [step]
            simp only [ended]
            exact fails

/-- Batches that all give partitions have stored all of their grammars. -/
theorem batches_stocked
    {sizes : List Int}
    {before : List Partition}
    (apart : machine.NamesApart)
    (avoids : ∀ size ∈ sizes, ∀ value ∈ Batch.numbers size trials, machine.Avoids value)
    (ready : workspace.Ready machine output begun)
    (unreservedParent :
      (Path.ofText (config.scratchRoot.getD machine.temporary)).Unreserved machine begun)
    (allows : machine.Allows machine.engines)
    (given : ((batches (fun size => Batch.run config size trials output workers) sizes
      before).run.perform machine workspace).1 = .ok partitions) :
    let after := ((batches (fun size => Batch.run config size trials output workers) sizes
      before).run.perform machine workspace).2
    after.Ready machine output begun ∧
      ∃ more stock,
        partitions = before ++ more ∧
        more.map Partition.size = sizes ∧
        Stocked machine output workspace.tree after.tree (more.flatMap Partition.labels)
          stock := by
  induction sizes generalizing before workspace with
  | nil =>
      cases given
      exact ⟨ready, [], [], (List.append_nil _).symm, rfl, .of_same fun _ => rfl⟩
  | cons size later inductionHypothesis =>
      intro after
      have step : (batches (fun size => Batch.run config size trials output workers)
          (size :: later) before).run.perform machine workspace = _ :=
        perform_run_bind _ _ machine workspace
      have isAfter : after = _ := congrArg Prod.snd step
      rw [step] at given
      cases ended : ((Batch.run config size trials output workers).run.perform machine
          workspace).1 with
      | error failure =>
          simp only [ended] at given
          cases given
      | ok partition =>
          simp only [ended] at given isAfter
          obtain ⟨sameSize, readyThen, stockFirst, stockedFirst⟩ :=
            Batch.run_stocked apart (avoids size (.head _)) ready unreservedParent allows ended
          obtain ⟨readyEnd, more, stock, rfl, sizes, stocked⟩ :=
            inductionHypothesis (fun other isLater => avoids other (.tail _ isLater)) readyThen
              given
          rw [isAfter]
          refine ⟨readyEnd, partition :: more, stockFirst ++ stock, by simp, ?_,
            stockedFirst.trans stocked⟩
          rw [List.map_cons, sameSize, sizes]

/-- The numbers in the names of a run: its sizes, and those of the trials. -/
def numbers (first last trials : Int) : List Int :=
  stride first last 1 ++ stride 0 trials 1

/-- A run has the numbers of each of its batches. -/
theorem mem_numbers
    {size value : Int}
    (isSize : size ∈ stride first last 1)
    (isNumber : value ∈ Batch.numbers size trials) :
    value ∈ numbers first last trials := by
  unfold numbers
  rcases List.mem_cons.1 isNumber with rfl | isTrial
  · exact List.mem_append_left _ isSize
  · exact List.mem_append_right _ isTrial

/-- A run over fewer sizes has fewer numbers. -/
theorem numbers_subset
    {size : Int}
    (fewer : size ≤ last) :
    numbers first size trials ⊆ numbers first last trials := by
  refine List.append_subset_of_subset_of_subset (fun value isSize => ?_)
    (List.subset_append_right _ _)
  rw [mem_stride_one] at isSize
  exact List.mem_append_left _ (mem_stride_one.2 ⟨isSize.1, Int.lt_of_lt_of_le isSize.2 fewer⟩)

/-- A run that gives partitions has stored all of their grammars. -/
theorem generate_stocked
    (apart : machine.NamesApart)
    (avoids : ∀ value ∈ numbers first last trials, machine.Avoids value)
    (ready : workspace.Ready machine output begun)
    (unreservedParent :
      (Path.ofText (config.scratchRoot.getD machine.temporary)).Unreserved machine begun)
    (allows : machine.Allows machine.engines)
    (given : ((generate config first last trials output workers).run.perform machine
      workspace).1 = .ok partitions) :
    let after := ((generate config first last trials output workers).run.perform machine
      workspace).2
    after.Ready machine output begun ∧
      partitions.map Partition.size = stride first last 1 ∧
      ∃ stock, Stocked machine output workspace.tree after.tree
        (partitions.flatMap Partition.labels) stock := by
  obtain ⟨readyEnd, more, stock, rfl, sizes, stocked⟩ :=
    batches_stocked apart
      (fun _ isSize value isNumber => avoids value (mem_numbers isSize isNumber))
      ready unreservedParent allows given
  exact ⟨readyEnd, sizes, stock, stocked⟩

/--
A run that fails, though clearing away works, has completed the sizes in front of one that
fails, and leaves the tree that a run over these sizes leaves by itself. It holds what it
held before and the grammars of the completed sizes; any other run over them, with other
names and workers, stores the same grammars. The directory that scratch directories are
made in has the entries that it had, except those that lead to a stored grammar.
-/
theorem generate_keeps_completed
    {failure : Failure}
    (apart : machine.NamesApart)
    (avoids : ∀ value ∈ numbers first last trials, machine.Avoids value)
    (ready : workspace.Ready machine output begun)
    (unreservedParent :
      (Path.ofText (config.scratchRoot.getD machine.temporary)).Unreserved machine begun)
    (allows : machine.Allows machine.engines)
    (failed : ((generate config first last trials output workers).run.perform machine
      workspace).1 = .error failure)
    (cleared : machine.Faultless ∨ ¬ failure.IsUncleared machine output config.scratchRoot) :
    let after := ((generate config first last trials output workers).run.perform machine
      workspace).2
    ∃ size completed,
      let alone := (generate config first size trials output workers).run.perform machine
        workspace
      (first ≤ size ∧ size < last) ∧
        alone.1 = .ok completed ∧
        (Batch.run config size trials output workers).run.perform machine alone.2 =
          (.error failure, after) ∧
        alone.2.tree.Same after.tree ∧
        ∃ stock,
          Stocked machine output workspace.tree after.tree
              (completed.flatMap Partition.labels) stock ∧
            (∀ holding ∈ stock, first ≤ holding.size ∧ holding.size < size) ∧
            (∀ parent,
              workspace.tree.resolve machine.directory
                  (Path.ofText (config.scratchRoot.getD machine.temporary)) = .ok parent →
                ∀ name,
                  (∀ holding ∈ stock, ∀ place,
                    after.tree.resolve machine.directory (holding.file output).1 = .ok place →
                      ¬ name :: parent <:+ place) →
                  after.tree.find? (name :: parent) =
                    workspace.tree.find? (name :: parent)) ∧
            ∀ (other : Machine) (start : Workspace) (otherBegun : Nat) (otherWorkers : Int)
              (otherCompleted : List Partition),
              machine.RepliesLike other →
                other.NamesApart →
                (∀ value ∈ numbers first size trials, other.Avoids value) →
                start.Ready other output otherBegun →
                start.tree = workspace.tree →
                (Path.ofText (config.scratchRoot.getD other.temporary)).Unreserved other
                  otherBegun →
                other.Allows other.engines →
                (1 < workers ∨ 1 < otherWorkers → machine.Undisturbed) →
                ((generate config first size trials output otherWorkers).run.perform other
                  start).1 = .ok otherCompleted →
                ∃ otherStock,
                  Stocked other output workspace.tree
                    ((generate config first size trials output otherWorkers).run.perform other
                      start).2.tree (completed.flatMap Partition.labels) otherStock := by
  intro after
  obtain ⟨earlier, size, later, completed, split, given, fails⟩ := batches_fails failed
  obtain ⟨rfl, fromFirst, below⟩ := stride_one_eq_append_cons split
  have isSize : size ∈ stride first last 1 := mem_stride_one.2 ⟨fromFirst, below⟩
  have avoidsBefore : ∀ value ∈ numbers first size trials, machine.Avoids value :=
    fun value isNumber => avoids value (numbers_subset (Int.le_of_lt below) isNumber)
  have avoidsThere : ∀ value ∈ Batch.numbers size trials, machine.Avoids value :=
    fun value isNumber => avoids value (mem_numbers isSize isNumber)
  obtain ⟨readyThen, sizes, stock, stocked⟩ :=
    generate_stocked apart avoidsBefore ready unreservedParent allows given
  have ends : (Batch.run config size trials output workers).run.perform machine
      ((generate config first size trials output workers).run.perform machine workspace).2 =
        (.error failure, after) := fails
  have same := Batch.run_same apart avoidsThere readyThen unreservedParent allows
    (congrArg Prod.fst ends) cleared
  rw [ends] at same
  have stockedEnd : Stocked machine output workspace.tree after.tree
      (completed.flatMap Partition.labels) stock := by
    simpa using stocked.trans (.of_same same)
  refine ⟨size, completed, ⟨fromFirst, below⟩, given, ends, same, stock, stockedEnd, ?_, ?_, ?_⟩
  · intro holding member
    have isSize := stocked.size_mem member
    rwa [sizes, mem_stride_one] at isSize
  · intro parent _ name aside
    refine stockedEnd.receives.find?_eq fun file member place leads => ?_
    obtain ⟨holding, isHolding, rfl⟩ := List.mem_map.1 member
    exact aside holding isHolding place leads
  · intro other start otherBegun otherWorkers otherCompleted replies apartOther avoidsOther
      readyOther sameTree unreservedOther allowsOther undisturbed givenOther
    obtain ⟨-, -, otherStock, stockedOther⟩ :=
      generate_stocked apartOther avoidsOther readyOther unreservedOther allowsOther givenOther
    have undisturbedOther : 1 < otherWorkers → other.Undisturbed :=
      fun shared role text => replies role text ▸ undisturbed (.inr shared) role text
    rw [generate_labels_congr replies (fun shared => undisturbed (.inl shared)) undisturbedOther
      given givenOther, sameTree] at stockedOther
    exact ⟨otherStock, stockedOther⟩

/-- Where nothing is left to chance, size three has too few names, whatever the stream. -/
theorem generate_chanceless_eq (output : Path) :
    generate .chanceless 2 4 1 output 1 = (do
      let partition ← Batch.runWith (Trial.about .chanceless 2 Config.onlyGrammar) none 2 1
        output 1
      let other ← Batch.runWith (fun _ _ => throw (.generation (.alphabetTooSmall 3))) none 3 1
        output 1
      return [partition, other]) := by
  have shape : generate .chanceless 2 4 1 output 1 = (do
      let partition ← Batch.run .chanceless 2 1 output 1
      let other ← Batch.run .chanceless 3 1 output 1
      return [partition, other]) := rfl
  have small : Batch.run .chanceless 3 1 output 1 =
      Batch.runWith (fun _ _ => throw (.generation (.alphabetTooSmall 3))) none 3 1 output 1 := by
    unfold Batch.run
    rw [Trial.run_of_small (by decide) (by decide)]
    rfl
  rw [shape, Batch.run_of_settles Config.generate_chanceless, small]
  rfl

/-- A run that is aborted at size three, behind one grammar of size two. -/
theorem generate_keeps_completed_of_chanceless :
    let start : Workspace := { tree := .empty }
    let output : Path := ⟨.relative, ["out"]⟩
    let after := ((generate .chanceless 2 4 1 output 1).run.perform .calm start).2
    ∃ failure,
      (Machine.calm.NamesApart ∧
        (∀ value ∈ numbers 2 4 1, Machine.calm.Avoids value) ∧
        start.Ready .calm output 0 ∧
        (Path.ofText (Config.chanceless.scratchRoot.getD Machine.calm.temporary)).Unreserved
          .calm 0 ∧
        Machine.calm.Allows Machine.calm.engines ∧
        ((generate .chanceless 2 4 1 output 1).run.perform .calm start).1 = .error failure ∧
        (Machine.calm.Faultless ∨
          ¬ failure.IsUncleared .calm output Config.chanceless.scratchRoot)) ∧
      ∃ size completed,
        let alone := (generate .chanceless 2 size 1 output 1).run.perform .calm start
        (2 ≤ size ∧ size < 4) ∧
          alone.1 = .ok completed ∧
          (Batch.run .chanceless size 1 output 1).run.perform .calm alone.2 =
            (.error failure, after) ∧
          alone.2.tree.Same after.tree ∧
          ∃ stock,
            Stocked .calm output start.tree after.tree
                (completed.flatMap Partition.labels) stock ∧
              ∀ holding ∈ stock, 2 ≤ holding.size ∧ holding.size < size := by
  intro start output after
  have fails : ((generate .chanceless 2 4 1 output 1).run.perform .calm start).1.isOk =
      false := by
    rw [generate_chanceless_eq]
    decide +kernel
  cases failed : ((generate .chanceless 2 4 1 output 1).run.perform .calm start).1 with
  | ok partitions =>
      rw [failed] at fails
      cases fails
  | error failure =>
      have ready : start.Ready .calm output 0 := .of_empty rfl rfl
      have unreservedParent : (Path.ofText (Config.chanceless.scratchRoot.getD
          Machine.calm.temporary)).Unreserved .calm 0 := .of_nil (by decide)
      have faultless : Machine.calm.Faultless := fun _ => rfl
      have avoids : ∀ value ∈ numbers 2 4 1, Machine.calm.Avoids value :=
        fun value _ => Machine.calm_avoids value
      obtain ⟨size, completed, between, given, ends, same, stock, stocked, sizes, -⟩ :=
        generate_keeps_completed Machine.calm_namesApart avoids ready unreservedParent nofun
          failed (.inl faultless)
      exact ⟨failure,
        ⟨Machine.calm_namesApart, avoids, ready, unreservedParent, nofun, rfl, .inl faultless⟩,
        size, completed, between, given, ends, same, stock, stocked, sizes⟩

/--
Where the corpus itself lies in the directory for scratch directories, this directory does
not have the same entries after a run that was aborted.
-/
theorem generate_adds_to_scratch_parent :
    let start : Workspace := { tree := .empty }
    let output : Path := ⟨.relative, ["out"]⟩
    let result := (generate .chanceless 2 4 1 output 1).run.perform .calm start
    result.1.isOk = false ∧
      start.tree.resolve []
          (Path.ofText (Config.chanceless.scratchRoot.getD Machine.calm.temporary)) = .ok [] ∧
      start.tree.names [] = [] ∧
      result.2.tree.names [] = ["out"] := by
  intro start output result
  have shape : result = _ := congrArg (fun job => job.run.perform Machine.calm start)
    (generate_chanceless_eq output)
  rw [shape]
  decide +kernel

end Corpus

end GrammarCorpus
