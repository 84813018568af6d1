import GrammarCorpus.Corpus.Run
import GrammarCorpus.Proofs.Corpus.Trial
import GrammarCorpus.Proofs.Pool.Keeping

namespace GrammarCorpus

/-!
# What a batch comes to

A batch fails and leaves the tree as it was, or it succeeds and the tree has received the
files of its partition, which are all renderings of the right size. The exceptions are the
scratch directory and the staging directory, if one of them cannot be cleared away; then
the failure tells, and the files of the partition are there beside that directory.
-/

open FileTree Work

/-- The failure to clear away a directory of the run's own. -/
def Failure.IsUncleared (machine : Machine) (output : Path) (parent : Option String) :
    Failure → Prop
  | .batch path _ => ∃ number,
      path = (output.child (".staging-" ++ machine.names number)).text ∨
        path = ((Path.ofText (parent.getD machine.temporary)).child
          ("cfg-gen-" ++ machine.names number)).text
  | _ => False

namespace Partition

variable {machine : Machine} {output : Path} {partition : Partition} {number : Nat}

/-- The files of a partition lie where its grammars belong, under new names. -/
theorem exists_of_mem_files
    {file : Path × String}
    (member : file ∈ partition.files output machine.names number) :
    ∃ shipment ∈ Shipment.all machine.names number partition.contents,
      file = shipment.stored output partition.size ∧
        ∃ later, number ≤ later ∧ shipment.name = machine.names later := by
  obtain ⟨shipment, isShipment, rfl⟩ := List.mem_map.1 member
  exact ⟨shipment, isShipment, rfl, Shipment.exists_number_of_mem_all isShipment⟩

/-- No file of a corpus has the name of a scratch directory on its way. -/
theorem scratch_not_mem_files
    {scratch : Nat}
    (apart : machine.NamesApart)
    (avoids : machine.Avoids partition.size)
    (unreserved : output.Unreserved machine scratch) :
    ∀ file ∈ partition.files output machine.names number,
      "cfg-gen-" ++ machine.names scratch ∉ file.1.parts := by
  intro file member inside
  obtain ⟨shipment, -, rfl, later, -, named⟩ := exists_of_mem_files member
  have reserved : machine.Reserves scratch ("cfg-gen-" ++ machine.names scratch) :=
    ⟨scratch, Nat.le_refl _, .inr (.inr rfl)⟩
  unfold Shipment.stored at inside
  rw [named, Store.place_eq (apart.isName later)] at inside
  simp only [List.mem_append, List.mem_cons, List.not_mem_nil, or_false] at inside
  rcases inside with outer | isClass | isSize | isFile
  · exact unreserved _ outer reserved
  · exact (apart.spent_class shipment.corpusClass).notReserved (isClass ▸ reserved)
  · exact avoids.spent.notReserved (isSize ▸ reserved)
  · exact (apart.names_ne later scratch).2 isFile.symm

end Partition

namespace ScratchDirectory

variable {machine : Machine} {old : FileTree} {scratch : ScratchDirectory machine old}
variable {first : Nat}

/-- What is said or counted does not matter to what a scratch directory contains. -/
theorem overlooks : Batch.Overlooks (scratch.Contains first) :=
  fun _ _ same named contains => {
    tidy := contains.tidy.of_tree_eq same (Nat.le_of_eq named.symm)
    holds := same ▸ contains.holds }

end ScratchDirectory

namespace Batch

variable {machine : Machine} {attempt : Attempt} {property : Classified → Prop}
variable {output : Path} {first : Nat} {size trials : Int}

/-- The numbers in the names of a batch: its size, and those of its trials. -/
def numbers (size trials : Int) : List Int :=
  size :: stride 0 trials 1

/-- The trials of a batch, one after the other or shared among workers. -/
def results (attempt : Attempt) (size trials workers : Int) (scratch : Path) :
    Job (List Classified) :=
  if 1 < workers then
    concurrently attempt size trials scratch workers
  else
    sequentially attempt trials scratch (stride 0 trials 1) []

/-- What is done in the scratch directory: the trials, and storing their partition. -/
def work
    (attempt : Attempt)
    (size trials : Int)
    (output : Path)
    (workers : Int)
    (scratch : Path) :
    Job Partition := do
  let found ← results attempt size trials workers scratch
  let _ ← Store.persist (.ofResults size trials found) output
  return .ofResults size trials found

/-- A batch is work in a scratch directory, and a message at its end. -/
theorem runWith_eq (parent : Option String) (size trials workers : Int) :
    runWith attempt parent size trials output workers =
      Scratch.within Failure.blaming parent (work attempt size trials output workers) >>=
        fun partition => do
          ExceptT.lift (Work.say ("\n" ++ partition.summary ++ "\n"))
          return partition := by
  unfold runWith work results
  congr
  funext scratch
  split <;> rfl

/-- So many trials that keep a scratch directory, and that have a property for each result. -/
def Attempts
    (machine : Machine)
    (attempt : Attempt)
    (trials : Int)
    (first : Nat)
    (property : Classified → Prop) : Prop :=
  ∀ {old : FileTree} (scratch : ScratchDirectory machine old) (later : Nat),
    first ≤ later →
      scratch.path.Unreserved machine later →
      ∀ trial ∈ stride 0 trials 1, KeepsOrFails machine (scratch.Contains later)
        (fun found => ∀ classified ∈ found, property classified) (attempt scratch.path trial)

/-- All trials together keep what each of them keeps. -/
theorem results_keeps
    {old : FileTree}
    {scratch : ScratchDirectory machine old}
    (attempts : ∀ trial ∈ stride 0 trials 1, KeepsOrFails machine (scratch.Contains first)
      (fun found => ∀ classified ∈ found, property classified) (attempt scratch.path trial))
    (size workers : Int) :
    KeepsOrFails machine (scratch.Contains first)
      (fun found => ∀ classified ∈ found, property classified)
      (results attempt size trials workers scratch.path) := by
  unfold results
  split
  · exact concurrently_keeps ScratchDirectory.overlooks attempts size workers
  · exact sequentially_keeps ScratchDirectory.overlooks attempts trials [] nofun

/-- What a tree has received from a batch, and of which partition it is. -/
structure Delivered
    (machine : Machine)
    (output : Path)
    (property : Classified → Prop)
    (size : Int)
    (partition : Partition)
    (before after : FileTree) : Prop where
  size_eq : partition.size = size
  each : ∀ item ∈ partition.contents, property item.2
  received : ∃ number,
    Receives machine.directory before after (partition.files output machine.names number)
  handed : partition.contents ≠ [] → ∀ part ∈ output.parts, FileWork.holdsNull part = false

/-- What is said of all results is said of all that is stored. -/
theorem each_contents
    {size trials : Int}
    {found : List Classified}
    (each : ∀ classified ∈ found, property classified) :
    ∀ item ∈ (Partition.ofResults size trials found).contents, property item.2 := by
  intro item member
  obtain ⟨corpusClass, -, inside⟩ := List.mem_flatMap.1 member
  obtain ⟨classified, isMember, rfl⟩ := List.mem_map.1 inside
  rw [Partition.members_ofResults] at isMember
  exact each classified (List.mem_filter.1 isMember).1

/-- A partition was delivered, beside the directory to which a path leads. -/
def DeliveredBeside
    (machine : Machine)
    (output : Path)
    (property : Classified → Prop)
    (size : Int)
    (path : Path)
    (before after : FileTree) : Prop :=
  ∃ place partition,
    after.resolve machine.directory path = .ok place ∧
      Delivered machine output property size partition before (after.prune place)

/--
What is done in the scratch directory fails and leaves everything outside as it was, or
the files of the partition are received. In the second case, the staging directory may be
there as well, if it cannot be cleared away.
-/
theorem work_cases
    {old : FileTree}
    {scratch : ScratchDirectory machine old}
    {entered : Workspace}
    (apart : machine.NamesApart)
    (avoids : machine.Avoids size)
    (home : old.isDirectory machine.directory = true)
    (straight : old.Straight machine.directory output)
    (unreserved : output.Unreserved machine first)
    (attempts : ∀ trial ∈ stride 0 trials 1, KeepsOrFails machine (scratch.Contains first)
      (fun found => ∀ classified ∈ found, property classified) (attempt scratch.path trial))
    (contains : scratch.Contains first entered)
    (workers : Int) :
    let worked := (work attempt size trials output workers scratch.path).run.perform machine
      entered
    (∃ failure, worked.1 = .error failure ∧ scratch.Contains first worked.2) ∨
      ∃ between,
        scratch.Holds between ∧
          ((¬ machine.Faultless ∧
            ∃ number cause,
              let staging := output.child (".staging-" ++ machine.names number)
              worked.1 = .error (.batch staging.text cause) ∧
                DeliveredBeside machine output property size staging between worked.2.tree) ∨
            ∃ partition,
              worked.1 = .ok partition ∧
                worked.2.Tidy machine first ∧
                Delivered machine output property size partition between worked.2.tree) := by
  intro worked
  have shape : worked = _ := perform_run_bind _ _ machine entered
  obtain ⟨containsThen, given⟩ := results_keeps attempts size workers entered contains
  generalize (results attempt size trials workers scratch.path).run.perform machine entered =
    made at shape containsThen given
  cases ended : made.1 with
  | error failure =>
      rw [ended] at shape
      refine .inl ⟨failure, congrArg Prod.fst shape, ?_⟩
      rw [shape]
      exact containsThen
  | ok found =>
      rw [ended] at shape
      simp only [perform_run_bind] at shape
      have within := containsThen.holds.within
      have avoidsSize : machine.Avoids (Partition.ofResults size trials found).size := avoids
      obtain ⟨tidyThen, -⟩ := Workspace.Tidy.persist apart avoidsSize unreserved made.2
        containsThen.tidy
      have cases := @Store.persist_cases machine made.2 output (.ofResults size trials found)
        first apart containsThen.tidy containsThen.holds.grounded (within.isDirectory home)
        (within.straight straight)
      generalize (Store.persist (.ofResults size trials found) output).run.perform machine
        made.2 = stored at shape tidyThen cases
      have delivered : ∀ after handed, Receives machine.directory made.2.tree after
          ((Partition.ofResults size trials found).files output machine.names
            (made.2.named + 1)) →
          Delivered machine output property size _ made.2.tree after :=
        fun after handed receives => {
          size_eq := rfl
          each := each_contents (given found ended)
          received := ⟨_, receives⟩
          handed }
      rcases cases with ⟨failure, failed, same⟩ |
        ⟨handed, ⟨faulty, cause, place, failed, leads, receives⟩ | ⟨placements, done, receives⟩⟩
      · rw [failed] at shape
        refine .inl ⟨failure, congrArg Prod.fst shape, ?_⟩
        rw [shape]
        exact ⟨tidyThen, containsThen.holds.of_same same⟩
      · rw [failed] at shape
        refine .inr ⟨made.2.tree, containsThen.holds, .inl ⟨faulty, made.2.named, cause,
          congrArg Prod.fst shape, ?_⟩⟩
        rw [shape]
        exact ⟨place, _, leads, delivered _ handed receives⟩
      · rw [done] at shape
        refine .inr ⟨made.2.tree, containsThen.holds, .inr ⟨_, congrArg Prod.fst shape, ?_, ?_⟩⟩
        · rw [shape]
          exact tidyThen
        · rw [shape]
          exact delivered _ handed receives

/-- What a tree has received stays when the scratch directory is removed. -/
theorem Delivered.prune
    {old between after : FileTree}
    {scratch : ScratchDirectory machine old}
    {size : Int}
    {partition : Partition}
    (apart : machine.NamesApart)
    (avoids : machine.Avoids size)
    (home : scratch.name ∉ machine.directory)
    (unreserved : output.Unreserved machine scratch.number)
    (holds : scratch.Holds between)
    (delivered : Delivered machine output property size partition between after) :
    Delivered machine output property size partition old (after.prune scratch.place) := by
  obtain ⟨number, receives⟩ := delivered.received
  exact { delivered with
    received := ⟨number, holds.receives receives home
      (Partition.scratch_not_mem_files apart (delivered.size_eq ▸ avoids) unreserved)⟩ }

/-- Behind what was received, the path of the scratch directory leads where it led. -/
theorem Delivered.leads
    {old between after : FileTree}
    {scratch : ScratchDirectory machine old}
    {size : Int}
    {partition : Partition}
    (holds : scratch.Holds between)
    (delivered : Delivered machine output property size partition between after) :
    after.resolve machine.directory scratch.path = .ok scratch.place ∧
      after.isDirectory scratch.place = true := by
  obtain ⟨number, receives⟩ := delivered.received
  have there := receives.kept.isDirectory holds.there
  exact ⟨ScratchDirectory.resolve_path
    (fun place entry found => receives.kept place entry (holds.within place entry found))
    (receives.grounded holds.grounded) there, there⟩

/--
The scratch directory is removed from under what was received, or a fault comes first. Then
everything was delivered beside it.
-/
theorem Delivered.remove
    {old between : FileTree}
    {workspace : Workspace}
    {scratch : ScratchDirectory machine old}
    {size : Int}
    {partition : Partition}
    (apart : machine.NamesApart)
    (avoids : machine.Avoids size)
    (home : scratch.name ∉ machine.directory)
    (unreserved : output.Unreserved machine scratch.number)
    (holds : scratch.Holds between)
    (delivered : Delivered machine output property size partition between workspace.tree) :
    let removed := (FileWork.removeTree scratch.path).run.perform machine workspace
    (¬ machine.Faultless ∧
      ∃ error,
        removed.1 = .error (.failed error) ∧
          DeliveredBeside machine output property size scratch.path old removed.2.tree) ∨
      removed.1 = .ok () ∧
        Delivered machine output property size partition old removed.2.tree := by
  intro removed
  obtain ⟨leads, there⟩ := delivered.leads holds
  have rest := delivered.prune apart avoids home unreserved holds
  rcases FileWork.removeTree_cases scratch.handed leads there with
    ⟨faulty, error, failed, same⟩ | ⟨done, pruned⟩
  · refine .inl ⟨faulty, error, failed, scratch.place, partition, ?_, ?_⟩
    · rw [show removed.2.tree = _ from same]
      exact leads
    · rw [show removed.2.tree = _ from same]
      exact rest
  · refine .inr ⟨done, ?_⟩
    rw [show removed.2.tree = _ from pruned]
    exact rest

/-- The scratch directory is discarded beside what was delivered. -/
theorem DeliveredBeside.discard
    {old between : FileTree}
    {workspace : Workspace}
    {scratch : ScratchDirectory machine old}
    {size : Int}
    {path : Path}
    (apart : machine.NamesApart)
    (avoids : machine.Avoids size)
    (home : scratch.name ∉ machine.directory)
    (unreserved : output.Unreserved machine scratch.number)
    (outside : scratch.name ∉ path.parts)
    (holds : scratch.Holds between)
    (beside : DeliveredBeside machine output property size path between workspace.tree) :
    DeliveredBeside machine output property size path old
      ((Work.discardTree scratch.path).perform machine workspace).2.tree := by
  obtain ⟨place, partition, leads, delivered⟩ := beside
  obtain ⟨leadsScratch, there⟩ := delivered.leads holds
  have more := prune_within workspace.tree place
  rw [Work.discardTree_of_isDirectory (more.resolve leadsScratch) (more.isDirectory there)]
  refine ⟨place, partition, ScratchDirectory.resolve_prune_place home outside leads, ?_⟩
  rw [prune_comm]
  exact delivered.prune apart avoids home unreserved holds

variable {parent : Option String}

variable (machine output property first parent)

/--
What a batch comes to: it fails and leaves the tree as it was, or the tree has received the
files of a partition. In between, one of the batch's own directories cannot be cleared
away; then it fails, with everything delivered beside that directory.
-/
def ComesTo (size : Int) (before : FileTree) (after : Except Failure Partition × Workspace) :
    Prop :=
  (∃ failure,
    after.1 = .error failure ∧ before.Same after.2.tree ∧ after.2.Tidy machine first) ∨
    (¬ machine.Faultless ∧
      ∃ failure,
        after.1 = .error failure ∧
          failure.IsUncleared machine output parent ∧
          ∃ path cause,
            failure = .batch path.text cause ∧
              DeliveredBeside machine output property size path before after.2.tree) ∨
    ∃ partition,
      after.1 = .ok partition ∧
        after.2.Tidy machine first ∧
        Delivered machine output property size partition before after.2.tree

variable {machine output property first parent}

/-- What a batch comes to, up to its message. -/
theorem within_comesTo
    {workspace : Workspace}
    (apart : machine.NamesApart)
    (avoids : machine.Avoids size)
    (tidy : workspace.Tidy machine first)
    (grounded : workspace.tree.Grounded)
    (home : workspace.tree.isDirectory machine.directory = true)
    (straight : workspace.tree.Straight machine.directory output)
    (unreserved : output.Unreserved machine first)
    (unreservedParent :
      (Path.ofText (parent.getD machine.temporary)).Unreserved machine first)
    (attempts : Attempts machine attempt trials first property)
    (workers : Int) :
    ComesTo machine property output first parent size workspace.tree
      ((Scratch.within Failure.blaming parent
        (work attempt size trials output workers)).run.perform machine workspace) := by
  rcases Scratch.within_cases apart tidy grounded Failure.blaming parent
      (work attempt size trials output workers) with
    ⟨failure, failed, same, tidyThen⟩ |
    ⟨scratch, entered, isPath, begun, numbered, contains, worked, performed, ending⟩
  · exact .inl ⟨failure, failed, fun location => by rw [same], tidyThen⟩
  have later : first ≤ scratch.number := Nat.le_trans tidy.begun begun
  have further : first ≤ entered.named := Nat.le_trans later (Nat.le_of_lt numbered)
  have scratchUnreserved := scratch.unreserved_path apart unreservedParent isPath further numbered
  have notHome : scratch.name ∉ machine.directory := fun member =>
    (tidy.home _ member).notReserved ⟨scratch.number, later, .inr (.inr rfl)⟩
  have possible := work_cases apart avoids home straight (unreserved.of_le further)
    (attempts scratch entered.named further scratchUnreserved) contains workers
  rw [performed] at possible
  rcases ending with ⟨failure, failed, ends⟩ | ⟨partition, done, ends⟩
  · rw [ends]
    rcases possible with ⟨again, -, containsThen⟩ |
      ⟨between, holds, ⟨faulty, number, cause, fails, beside⟩ | ⟨partition, succeeds, -⟩⟩
    · have keeps : Keeps machine (Workspace.Tidy machine entered.named) (fun _ => True)
          (Work.discardTree scratch.path) := Workspace.Tidy.discardTree
      obtain ⟨tidyEnd, -⟩ := keeps worked.2 containsThen.tidy
      refine .inl ⟨failure, rfl, ?_⟩
      dsimp only
      exact ⟨containsThen.holds.discard, tidyEnd.of_le tidy further⟩
    · cases failed.symm.trans fails
      refine .inr (.inl ⟨faulty, _, rfl, ⟨number, .inl rfl⟩, _, cause, rfl, ?_⟩)
      refine beside.discard apart avoids notHome (unreserved.of_le later) ?_ holds
      rw [Path.child_isName (Delivery.isName_staging (apart.isName number)), List.mem_append,
        List.mem_singleton]
      rintro (outer | same)
      · exact unreserved _ outer ⟨scratch.number, later, .inr (.inr rfl)⟩
      · exact Machine.staging_ne_scratch _ _ same.symm
    · cases failed.symm.trans succeeds
  · rcases possible with ⟨again, fails, -⟩ |
      ⟨between, holds, ⟨-, number, cause, fails, -⟩ | ⟨other, succeeds, tidyThen, delivered⟩⟩
    · cases done.symm.trans fails
    · cases done.symm.trans fails
    cases done.symm.trans succeeds
    obtain ⟨tidyEnd, -⟩ := Workspace.Tidy.removeWhole scratch.path worked.2 tidyThen
    obtain ⟨failing, succeeding⟩ := ends
    rcases delivered.remove apart avoids notHome (unreserved.of_le later) holds with
      ⟨faulty, error, failed, beside⟩ | ⟨removed, deliveredThen⟩
    · rw [failing _ failed]
      refine .inr (.inl ⟨faulty, _, rfl, ⟨scratch.number, .inr ?_⟩, scratch.path, error, rfl,
        beside⟩)
      rw [isPath]
      rfl
    · rw [succeeding removed]
      exact .inr (.inr ⟨partition, rfl, tidyEnd.of_le tidy further, deliveredThen⟩)

/-- A batch comes to one of its ends; its message does not matter. -/
theorem runWith_comesTo
    {workspace : Workspace}
    (apart : machine.NamesApart)
    (avoids : machine.Avoids size)
    (tidy : workspace.Tidy machine first)
    (grounded : workspace.tree.Grounded)
    (home : workspace.tree.isDirectory machine.directory = true)
    (straight : workspace.tree.Straight machine.directory output)
    (unreserved : output.Unreserved machine first)
    (unreservedParent :
      (Path.ofText (parent.getD machine.temporary)).Unreserved machine first)
    (attempts : Attempts machine attempt trials first property)
    (workers : Int) :
    ComesTo machine property output first parent size workspace.tree
      ((runWith attempt parent size trials output workers).run.perform machine workspace) := by
  have comesTo := within_comesTo apart avoids tidy grounded home straight unreserved
    unreservedParent attempts workers
  rw [runWith_eq, perform_run_bind]
  generalize (Scratch.within Failure.blaming parent
    (work attempt size trials output workers)).run.perform machine workspace = left at comesTo ⊢
  rcases comesTo with
    ⟨failure, failed, ends⟩ | ⟨faulty, failure, failed, uncleared⟩ |
    ⟨partition, given, tidyThen, rest⟩
  · rw [failed]
    exact .inl ⟨failure, rfl, ends⟩
  · rw [failed]
    exact .inr (.inl ⟨faulty, failure, rfl, uncleared⟩)
  · rw [given]
    exact .inr (.inr ⟨partition, rfl, tidyThen.of_tree_eq rfl (Nat.le_refl _), rest⟩)

variable {config : Config}

/-- The trials of a configuration keep scratch directories, and their results judge grammars. -/
theorem attempts_of_judges
    (apart : machine.NamesApart)
    (avoids : ∀ trial ∈ stride 0 trials 1, machine.Avoids trial)
    (allows : machine.Allows machine.engines)
    (each : ∀ classified grammar, Trial.Judges machine config size classified grammar →
      property classified) :
    Attempts machine (Trial.run config size) trials first property :=
  fun _ _ _ unreserved trial isMade =>
    Trial.run_keeps apart (avoids trial isMade) allows unreserved each

end Batch

end GrammarCorpus
