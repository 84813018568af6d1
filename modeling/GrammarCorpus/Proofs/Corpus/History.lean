import GrammarCorpus.Proofs.Corpus.Batch

namespace GrammarCorpus

/-!
# Histories of a corpus

A history is a sequence of batches with one output directory. Everything else may differ
from call to call: the configuration, the size, the number of trials and of workers, and
what the engines do. Some calls give a partition, others fail; in the end the tree has
received the files of the partitions that were given, and nothing else.
-/

open FileTree Work

/-- What may differ from one batch to the next. -/
structure BatchCall where
  config : Config
  size : Int
  trials : Int
  workers : Int
  engines : Engines

namespace BatchCall

/-- The machine on which the call is made. -/
def on (call : BatchCall) (machine : Machine) : Machine :=
  { machine with engines := call.engines }

/-- What the call gives, and the workspace that it leaves. -/
def perform
    (call : BatchCall)
    (machine : Machine)
    (output : Path)
    (workspace : Workspace) :
    Except Failure Partition × Workspace :=
  (Batch.run call.config call.size call.trials output call.workers).run.perform
    (call.on machine) workspace

/--
A call with the standard names, for a size that they allow, whose engines and whose
scratch directory keep away from the new names, as these do from its numbers.
-/
structure Fits (machine : Machine) (first : Nat) (call : BatchCall) : Prop where
  least : 2 ≤ call.size
  greatest : call.size ≤ 26
  standard : call.config.IsNamedStandardly
  allows : machine.Allows call.engines
  avoids : ∀ value ∈ Batch.numbers call.size call.trials, machine.Avoids value
  unreserved :
    (Path.ofText (call.config.scratchRoot.getD machine.temporary)).Unreserved machine first

end BatchCall

namespace Corpus

/-- The calls with what they give, and the workspace in the end. -/
def history (machine : Machine) (output : Path) :
    List BatchCall → Workspace → List (BatchCall × Except Failure Partition) × Workspace
  | [], workspace => ([], workspace)
  | call :: later, workspace =>
      let first := call.perform machine output workspace
      let rest := history machine output later first.2
      ((call, first.1) :: rest.1, rest.2)

/-- The partitions that were given. -/
def given (entries : List (BatchCall × Except Failure Partition)) : List Partition :=
  entries.filterMap fun entry => entry.2.toOption

/-- A partition was given by some call. -/
theorem mem_given
    {entries : List (BatchCall × Except Failure Partition)}
    {partition : Partition}
    (member : partition ∈ given entries) :
    ∃ entry ∈ entries, entry.2 = .ok partition := by
  obtain ⟨entry, isEntry, ends⟩ := List.mem_filterMap.1 member
  exact ⟨entry, isEntry, eq_ok_of_toOption ends⟩

/--
Clearing away works: no call of the file system meets a fault, or at least no failure
tells of a directory of the run's own that could not be cleared away.
-/
def Cleared
    (machine : Machine)
    (output : Path)
    (entries : List (BatchCall × Except Failure Partition)) : Prop :=
  machine.Faultless ∨
    ∀ entry ∈ entries, ∀ failure, entry.2 = .error failure →
      ¬ failure.IsUncleared machine output entry.1.config.scratchRoot

/-- Clearing away works for some of the calls if it does for all. -/
theorem Cleared.of_subset
    {machine : Machine}
    {output : Path}
    {entries fewer : List (BatchCall × Except Failure Partition)}
    (cleared : Cleared machine output entries)
    (inside : fewer ⊆ entries) :
    Cleared machine output fewer :=
  cleared.imp_right fun none entry member => none entry (inside member)

end Corpus

section Engines

variable {machine : Machine} {call : BatchCall} {first : Nat} {name : String}

/-- Engines have no part in the names. -/
theorem Machine.spent_on : (call.on machine).Spent first name ↔ machine.Spent first name :=
  ⟨fun spent => ⟨spent.noNull, spent.notReserved⟩,
    fun spent => ⟨spent.noNull, spent.notReserved⟩⟩

/-- Engines have no part in what the names are told apart from. -/
theorem Machine.NamesApart.on (apart : machine.NamesApart) : (call.on machine).NamesApart :=
  { apart with }

/-- Engines have no part in the numbers that the names avoid. -/
theorem Machine.Avoids.on {value : Int} (avoids : machine.Avoids value) :
    (call.on machine).Avoids value :=
  avoids

/-- Engines have no part in whether a workspace is tidy. -/
theorem Workspace.tidy_on {workspace : Workspace} :
    workspace.Tidy (call.on machine) first ↔ workspace.Tidy machine first :=
  ⟨fun tidy => { tidy with
      home := fun name member => Machine.spent_on.1 (tidy.home name member)
      spent := fun location holds name member =>
        Machine.spent_on.1 (tidy.spent location holds name member) },
    fun tidy => { tidy with
      home := fun name member => Machine.spent_on.2 (tidy.home name member)
      spent := fun location holds name member =>
        Machine.spent_on.2 (tidy.spent location holds name member) }⟩

/-- Engines have no part in what is delivered. -/
theorem Batch.Delivered.of_on
    {output : Path}
    {property : Classified → Prop}
    {size : Int}
    {partition : Partition}
    {before after : FileTree}
    (delivered :
      Delivered (call.on machine) output property size partition before after) :
    Delivered machine output property size partition before after :=
  { delivered with }

end Engines

/-- A grammar of a corpus, on its way or there, with its size. -/
structure Holding where
  size : Int
  shipment : Shipment

namespace Holding

/-- The file of a grammar in a corpus. -/
def file (output : Path) (holding : Holding) : Path × String :=
  holding.shipment.stored output holding.size

/-- What a survey can find out about a grammar. -/
def label (holding : Holding) : CorpusClass × Int × String :=
  (holding.shipment.corpusClass, holding.size, holding.shipment.text)

end Holding

namespace Partition

/-- What a survey can find out about the grammars of a partition. -/
def labels (partition : Partition) : List (CorpusClass × Int × String) :=
  partition.contents.map fun item => (item.1, partition.size, item.2.text)

end Partition

/-- The tree has received the grammars of partitions, under names of the machine. -/
structure Stocked
    (machine : Machine)
    (output : Path)
    (before after : FileTree)
    (labels : List (CorpusClass × Int × String))
    (stock : List Holding) : Prop where
  receives : Receives machine.directory before after (stock.map (Holding.file output))
  named : ∀ holding ∈ stock, ∃ number, holding.shipment.name = machine.names number
  labels_eq : stock.map Holding.label = labels

namespace Stocked

variable {machine : Machine} {output : Path} {before between after : FileTree}
variable {first second : List (CorpusClass × Int × String)} {stock : List Holding}

/-- A tree that is the same has received nothing. -/
theorem of_same (same : before.Same after) : Stocked machine output before after [] [] where
  receives := .of_same same
  named := nofun
  labels_eq := rfl

/-- What is received in two steps is received in all. -/
theorem trans
    {stockFirst stockSecond : List Holding}
    (stockedFirst : Stocked machine output before between first stockFirst)
    (stockedSecond : Stocked machine output between after second stockSecond) :
    Stocked machine output before after (first ++ second) (stockFirst ++ stockSecond) where
  receives := by
    rw [List.map_append]
    exact stockedFirst.receives.trans stockedSecond.receives
  named holding member := (List.mem_append.1 member).elim (stockedFirst.named holding)
    (stockedSecond.named holding)
  labels_eq := by rw [List.map_append, stockedFirst.labels_eq, stockedSecond.labels_eq]

end Stocked

/-- The grammars of a partition are received under new names. -/
theorem Batch.Delivered.stocked
    {machine : Machine}
    {output : Path}
    {property : Classified → Prop}
    {size : Int}
    {partition : Partition}
    {before after : FileTree}
    (delivered : Delivered machine output property size partition before after) :
    ∃ stock, Stocked machine output before after partition.labels stock := by
  obtain ⟨number, receives⟩ := delivered.received
  refine ⟨(Shipment.all machine.names number partition.contents).map
    fun shipment => ⟨partition.size, shipment⟩, ?_, ?_, ?_⟩
  · rw [List.map_map]
    exact receives
  · intro holding member
    obtain ⟨shipment, isShipment, rfl⟩ := List.mem_map.1 member
    obtain ⟨later, -, named⟩ := Shipment.exists_number_of_mem_all isShipment
    exact ⟨later, named⟩
  · have same := congrArg (List.map fun label : CorpusClass × String =>
      (label.1, partition.size, label.2))
      (Shipment.map_all machine.names number partition.contents)
    rw [List.map_map, List.map_map] at same
    rw [List.map_map]
    exact same

/-- What a history has to begin with, and what every call of it leaves. -/
structure Workspace.Ready
    (machine : Machine)
    (output : Path)
    (first : Nat)
    (workspace : Workspace) : Prop where
  tidy : workspace.Tidy machine first
  grounded : workspace.tree.Grounded
  home : workspace.tree.isDirectory machine.directory = true
  straight : workspace.tree.Straight machine.directory output
  unreserved : output.Unreserved machine first

namespace Workspace.Ready

variable {machine : Machine} {output : Path} {first : Nat} {before after : Workspace}

/-- A history can go on after files have been received. -/
theorem of_receives
    {files : List (Path × String)}
    (ready : before.Ready machine output first)
    (tidy : after.Tidy machine first)
    (receives : Receives machine.directory before.tree after.tree files) :
    after.Ready machine output first where
  tidy := tidy
  grounded := receives.grounded ready.grounded
  home := receives.kept.isDirectory ready.home
  straight := receives.kept.straight ready.straight
  unreserved := ready.unreserved

end Workspace.Ready

/-- What is said of a partition that was given for a size. -/
structure Partition.IsSound (output : Path) (size : Int) (partition : Partition) : Prop where
  size_eq : partition.size = size
  least : 2 ≤ partition.size
  greatest : partition.size ≤ 26
  renderings : ∀ item ∈ partition.contents, IsRendering partition.size item.2.text
  handed : partition.contents ≠ [] → ∀ part ∈ output.parts, FileWork.holdsNull part = false

namespace BatchCall

variable {machine : Machine} {output : Path} {first : Nat} {workspace : Workspace}
variable {call : BatchCall}

/-- A call comes to one of the ends of a batch, with renderings of its size. -/
theorem perform_comesTo
    (apart : machine.NamesApart)
    (fits : call.Fits machine first)
    (ready : workspace.Ready machine output first) :
    Batch.ComesTo (call.on machine) (fun classified => IsRendering call.size classified.text)
      output first call.config.scratchRoot call.size workspace.tree
      (call.perform machine output workspace) := by
  have allows : (call.on machine).Allows call.engines :=
    fun role text item member => Machine.spent_on.2 (fits.allows role text item member)
  obtain ⟨avoidsSize, avoidsTrials⟩ := List.forall_mem_cons.1 fits.avoids
  exact Batch.runWith_comesTo apart.on avoidsSize.on (Workspace.tidy_on.2 ready.tidy)
    ready.grounded ready.home ready.straight ready.unreserved fits.unreserved
    (Batch.attempts_of_judges apart.on (fun trial isMade => (avoidsTrials trial isMade).on) allows
      fun _ _ judges => judges.isRendering fits.standard)
    call.workers

/--
A call fails and leaves the tree as it was, or it gives a partition, whose grammars the
tree has received. In any case the history can go on.
-/
theorem perform_cases
    (apart : machine.NamesApart)
    (fits : call.Fits machine first)
    (ready : workspace.Ready machine output first)
    (cleared : Corpus.Cleared machine output
      [(call, (call.perform machine output workspace).1)]) :
    let after := call.perform machine output workspace
    after.2.Ready machine output first ∧
      ((∃ failure, after.1 = .error failure ∧ workspace.tree.Same after.2.tree) ∨
        ∃ partition stock,
          after.1 = .ok partition ∧
            partition.IsSound output call.size ∧
            Stocked machine output workspace.tree after.2.tree partition.labels stock) := by
  intro after
  rcases perform_comesTo apart fits ready with
    ⟨failure, failed, same, tidy⟩ | ⟨faulty, failure, failed, uncleared, -⟩ |
    ⟨partition, given, tidy, deliveredOn⟩
  · exact ⟨ready.of_receives (Workspace.tidy_on.1 tidy) (.of_same same),
      .inl ⟨failure, failed, same⟩⟩
  · exact absurd uncleared (cleared.resolve_left faulty _ (List.mem_singleton_self _) failure
      failed)
  · have delivered := deliveredOn.of_on
    obtain ⟨stock, stocked⟩ := delivered.stocked
    refine ⟨ready.of_receives (Workspace.tidy_on.1 tidy) stocked.receives,
      .inr ⟨partition, stock, given, ?_, stocked⟩⟩
    exact {
      size_eq := delivered.size_eq
      least := delivered.size_eq ▸ fits.least
      greatest := delivered.size_eq ▸ fits.greatest
      renderings := delivered.size_eq ▸ delivered.each
      handed := delivered.handed }

end BatchCall

namespace Corpus

variable {machine : Machine} {output : Path} {first : Nat} {workspace : Workspace}
variable {calls : List BatchCall}

/--
In the end of a history, the tree has received the grammars of all partitions that were
given, and nothing else; and the history could go on.
-/
theorem history_stocked
    (apart : machine.NamesApart)
    (fit : ∀ call ∈ calls, call.Fits machine first)
    (ready : workspace.Ready machine output first)
    (cleared : Cleared machine output (history machine output calls workspace).1) :
    let ended := history machine output calls workspace
    ended.2.Ready machine output first ∧
      (∀ entry ∈ ended.1, ∀ partition, entry.2 = .ok partition →
        partition.IsSound output entry.1.size) ∧
      ∃ stock, Stocked machine output workspace.tree ended.2.tree
        ((given ended.1).flatMap Partition.labels) stock := by
  induction calls generalizing workspace with
  | nil =>
      have empty : history machine output [] workspace = ([], workspace) := rfl
      rw [empty]
      exact ⟨ready, fun entry member => absurd member List.not_mem_nil, [],
        .of_same fun _ => rfl⟩
  | cons call later inductionHypothesis =>
      obtain ⟨readyThen, cases⟩ := BatchCall.perform_cases apart (fit call List.mem_cons_self)
        ready (cleared.of_subset (List.cons_subset_cons _ (List.nil_subset _)))
      obtain ⟨readyEnd, sound, stock, stocked⟩ := inductionHypothesis
        (fun other member => fit other (List.mem_cons_of_mem _ member)) readyThen
        (cleared.of_subset (List.subset_cons_self _ _))
      have shape : history machine output (call :: later) workspace =
          ((call, (call.perform machine output workspace).1) ::
            (history machine output later (call.perform machine output workspace).2).1,
            (history machine output later (call.perform machine output workspace).2).2) := rfl
      rw [shape]
      generalize history machine output later (call.perform machine output workspace).2 = rest at *
      generalize call.perform machine output workspace = made at *
      rcases cases with ⟨failure, failed, same⟩ | ⟨partition, newStock, ends, isSound, newStocked⟩
      · have fewer : given ((call, made.1) :: rest.1) = given rest.1 := by
          simp only [given, List.filterMap_cons, failed]
          rfl
        dsimp only
        rw [fewer]
        refine ⟨readyEnd, ?_, stock, (Stocked.of_same same).trans stocked⟩
        intro entry member partition ends
        rcases List.mem_cons.1 member with rfl | inLater
        · cases failed.symm.trans ends
        · exact sound entry inLater partition ends
      · have more : given ((call, made.1) :: rest.1) = partition :: given rest.1 := by
          simp only [given, List.filterMap_cons, ends]
          rfl
        dsimp only
        rw [more]
        refine ⟨readyEnd, ?_, newStock ++ stock, newStocked.trans stocked⟩
        intro entry member other endsOther
        rcases List.mem_cons.1 member with rfl | inLater
        · cases ends.symm.trans endsOther
          exact isSound
        · exact sound entry inLater other endsOther

end Corpus

end GrammarCorpus
