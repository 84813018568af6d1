import GrammarCorpus.Proofs.Store.Attempt

namespace GrammarCorpus

/-!
# A partition is stored as a whole or not at all

When staging or settling fails at any point, storing a partition leaves the tree as it
was. When nothing fails, the tree has received one file for each grammar of each class,
with the directories above them, and nothing else.

This holds for output paths that do not turn back from a place that is missing. Parts
behind such a place are listed as missing although they may lead to a directory that was
there before, and an empty one is then taken back with the others.
-/

open FileTree

variable {machine : Machine} {workspace : Workspace} {output : Path} {partition : Partition}

namespace Store

/-- The staging directory of a run that begins in a workspace. -/
def stagingOf (machine : Machine) (workspace : Workspace) (output : Path) : Path :=
  output.child (".staging-" ++ machine.names workspace.named)

/-- What becomes of staging and settling, once the staging directory has its name. -/
def attempt
    (machine : Machine)
    (workspace : Workspace)
    (partition : Partition)
    (output : Path)
    (created : List Path) :
    (Option FileFailure × Ledger) × Workspace :=
  (stageAndSettle partition output (stagingOf machine workspace output) created).perform
    machine { workspace with named := workspace.named + 1 }

/-- Nothing is begun if the tree cannot be asked what is missing. -/
theorem perform_persist_of_error
    {failure : FileFailure}
    (found : ((FileWork.missing output).run.perform machine workspace).1 = .error failure) :
    (persist partition output).run.perform machine workspace =
      (.error (.file failure), workspace) := by
  have unchanged : ((FileWork.missing output).run.perform machine workspace).2 = workspace :=
    FileWork.perform_missingFrom_snd _ _
  unfold persist Job.ofFiles
  rw [Work.perform_run_bind, Work.perform_run_adapt, unchanged, found]
  rfl

/-- Behind the attempt, everything is taken back, or the staging directory is removed. -/
theorem perform_persist_of_ok
    {created : List Path}
    (found : ((FileWork.missing output).run.perform machine workspace).1 = .ok created) :
    let staging := stagingOf machine workspace output
    let tried := attempt machine workspace partition output created
    (persist partition output).run.perform machine workspace =
      ((match tried.1 with
        | (some failure, ledger) => do
            ExceptT.lift (rollBack staging ledger)
            throw (Failure.blaming ledger.current.text failure)
        | (none, ledger) => do
            if ← Job.ofFiles (FileWork.isThere staging) then
              Job.ofBatch staging (FileWork.removeTree staging)
            return ledger.placements : Job (List Placement)).run).perform machine tried.2 := by
  intro staging tried
  have unchanged : ((FileWork.missing output).run.perform machine workspace).2 = workspace :=
    FileWork.perform_missingFrom_snd _ _
  unfold persist
  rw [Work.perform_run_bind]
  unfold Job.ofFiles
  rw [Work.perform_run_adapt, unchanged, found]
  rfl

/-- A failed attempt is taken back, and its failure is raised. -/
theorem perform_persist_of_failure
    {created : List Path}
    {tried : (Option FileFailure × Ledger) × Workspace}
    {failure : FileFailure}
    (found : ((FileWork.missing output).run.perform machine workspace).1 = .ok created)
    (performed : attempt machine workspace partition output created = tried)
    (fails : tried.1.1 = some failure) :
    (persist partition output).run.perform machine workspace =
      (.error (Failure.blaming tried.1.2.current.text failure),
        ((rollBack (stagingOf machine workspace output) tried.1.2).perform
          machine tried.2).2) := by
  rw [perform_persist_of_ok found, performed]
  obtain ⟨⟨failed, ledger⟩, after⟩ := tried
  cases fails
  simp only
  rw [Work.perform_run_bind, Work.perform_run_lift]
  simp only [ExceptT.run_throw, Work.perform_pure]

/-- Behind an attempt that ends well, the staging directory is removed if it is there. -/
theorem perform_persist_of_none
    {created : List Path}
    {tried : (Option FileFailure × Ledger) × Workspace}
    {staging : Path}
    (found : ((FileWork.missing output).run.perform machine workspace).1 = .ok created)
    (performed : attempt machine workspace partition output created = tried)
    (isStaging : stagingOf machine workspace output = staging)
    (ends : tried.1.1 = none) :
    (persist partition output).run.perform machine workspace =
      match tried.2.tree.lookAt machine.directory staging with
      | .error failure => (.error (.file failure), tried.2)
      | .ok none => (.ok tried.1.2.placements, tried.2)
      | .ok (some _) =>
          (((FileWork.removeTree staging).run.perform machine tried.2).1.mapError
              (Failure.blaming staging.text) |>.map fun _ => tried.1.2.placements,
            ((FileWork.removeTree staging).run.perform machine tried.2).2) := by
  rw [perform_persist_of_ok found, performed, isStaging]
  obtain ⟨⟨failed, ledger⟩, after⟩ := tried
  cases ends
  simp only
  rw [Work.perform_run_bind]
  unfold Job.ofFiles
  rw [Work.perform_run_adapt, FileWork.perform_isThere]
  cases seen : after.tree.lookAt machine.directory staging with
  | error failure => rfl
  | ok entry =>
      cases entry with
      | none => rfl
      | some entry =>
          change (do
            Job.ofBatch staging (FileWork.removeTree staging)
            return ledger.placements : Job (List Placement)).run.perform machine after = _
          unfold Job.ofBatch
          rw [Work.perform_run_bind, Work.perform_run_adapt]
          generalize (FileWork.removeTree staging).run.perform machine after = removed
          obtain ⟨_ | _, _⟩ := removed <;> rfl

end Store

namespace Delivery

/-- The name of a staging directory is a name. -/
theorem isName_staging {name : String} (isName : Path.IsName name) :
    Path.IsName (".staging-" ++ name) where
  notEmpty := by
    intro same
    have lengths := congrArg (·.toList.length) same
    simp at lengths
  notPoint := by
    intro same
    have lengths := congrArg (·.toList.length) same
    simp at lengths
  notTwoPoints := by
    intro same
    have lengths := congrArg (·.toList.length) same
    simp at lengths
  noSlash := by
    rw [String.toList_append, List.mem_append, not_or]
    exact ⟨by decide, isName.noSlash⟩
  noNull := by
    rw [Path.holdsNull_append, isName.noNull]
    decide

/-- No class has the name of a staging directory. -/
theorem staging_ne_text (name : String) (corpusClass : CorpusClass) :
    ".staging-" ++ name ≠ corpusClass.text := by
  intro same
  have characters := congrArg String.toList same
  rw [String.toList_append] at characters
  cases corpusClass <;> cases characters

/-- The delivery is that of a partition to an output directory, in some workspace. -/
structure Serves
    (delivery : Delivery machine workspace.tree)
    (partition : Partition)
    (output : Path)
    (created : List Path) : Prop where
  output_eq : delivery.site.path delivery.output = output
  root_eq : delivery.site.path delivery.root = Store.stagingOf machine workspace output
  size_eq : delivery.size = partition.size
  first_eq : delivery.first = workspace.named + 1
  listed : ∀ path, path ∈ created ↔
    ∃ taken, taken ≠ [] ∧ taken <+: delivery.output ∧ path = delivery.site.path taken

/-- Storing a partition below a path that does not turn back is a delivery. -/
theorem exists_of_missing
    {created : List Path}
    (grounded : workspace.tree.Grounded)
    (nameable : workspace.tree.Nameable)
    (home : workspace.tree.isDirectory machine.directory = true)
    (names : machine.NewNames workspace.tree workspace.named)
    (straight : workspace.tree.Straight machine.directory output)
    (found : ((FileWork.missing output).run.perform machine workspace).1 = .ok created)
    (partition : Partition) :
    ∃ delivery : Delivery machine workspace.tree,
      delivery.Serves partition output created := by
  obtain ⟨site, rest, rfl, downward, nullFree, free, listed⟩ :=
    exists_site grounded nameable home straight found
  have isName := names.isName workspace.named (Nat.le_refl _)
  let delivery : Delivery machine workspace.tree := {
    site
    output := rest
    staging := ".staging-" ++ machine.names workspace.named
    size := partition.size
    first := workspace.named + 1
    downward
    nameable
    nullFree
    outputFree := free
    stagingName := isName_staging isName
    stagingFree := by
      refine names.unused workspace.named _ (Nat.le_refl _) (.inr ?_)
      rw [Site.place_concat]
      exact List.mem_cons_self
    stagingApart := staging_ne_text _
    names := {
      isName := fun number begun => names.isName number (Nat.le_of_succ_le begun)
      distinct := fun number later begun =>
        names.distinct number later (Nat.le_of_succ_le begun)
      unused := fun number location begun =>
        names.unused number location (Nat.le_of_succ_le begun) } }
  refine ⟨delivery, rfl, ?_, rfl, rfl, listed⟩
  unfold Store.stagingOf
  rw [Path.child_isName (isName_staging isName)]
  simp [Site.path, root, delivery]

/-- Before anything is staged, the staging directory is not seen. -/
theorem lookAt_root_ne_some
    {old : FileTree}
    (delivery : Delivery machine old)
    (entry : Entry) :
    old.lookAt machine.directory (delivery.site.path delivery.root) ≠ .ok (some entry) := by
  intro seen
  obtain ⟨location, leads, found⟩ := resolve_of_lookAt_eq_some seen
  have fresh : delivery.site.Fresh (delivery.site.path delivery.root) := fresh_root
  obtain ⟨parts, some, downward, same, free⟩ := fresh
  cases Site.path_injective same
  obtain ⟨rfl, -, -⟩ := delivery.site.eq_place_of_resolve (.refl old) some downward leads
  cases found.symm.trans free

/-- Once everything is settled, the path of the staging directory leads there. -/
theorem resolve_root
    {old tree : FileTree}
    {delivery : Delivery machine old}
    {created moved : List Path}
    (tracked : delivery.Tracked created moved tree)
    (isDirectory : tree.isDirectory (delivery.site.place delivery.root) = true) :
    tree.resolve machine.directory (delivery.site.path delivery.root) =
      .ok (delivery.site.place delivery.root) := by
  have found := isDirectory_iff.1 isDirectory
  have fresh : delivery.site.Fresh (delivery.site.path delivery.root) := fresh_root
  obtain ⟨parts, -, -, same, free⟩ := id fresh
  cases Site.path_injective same
  have usable := ((tracked.accounted _ _ found free).at_staging rfl).resolve_right
    fun file => absurd rfl file.1
  exact tracked.resolve_eq_place fresh usable.2 (contains_of_isDirectory isDirectory)

/-- The path of the staging directory can be handed over if its parts can. -/
theorem RootHanded.holdsNull
    {old : FileTree}
    {delivery : Delivery machine old}
    (handed : delivery.RootHanded) :
    FileWork.holdsNull (delivery.site.path delivery.root).text = false := by
  rw [Path.holdsNull_text]
  simp only [Site.path, List.any_append, Bool.or_eq_false_iff, List.any_eq_false]
  refine ⟨?_, ?_⟩
  · intro part member
    rw [delivery.nullFree part member]
    exact Bool.false_ne_true
  · intro part member
    rw [handed part member]
    exact Bool.false_ne_true

/-- The files of a corpus are not in the staging directory. -/
theorem held_prune
    {old tree : FileTree}
    {delivery : Delivery machine old}
    {shipments : List Shipment}
    (held : Held delivery.stored tree shipments) :
    Held delivery.stored (tree.prune (delivery.site.place delivery.root)) shipments := by
  intro shipment member
  rw [find?_prune_below (Site.place_ne_nil (by simp [root])), if_neg]
  · exact held shipment member
  · intro inside
    unfold root stored file folder at inside
    rw [Site.place_suffix_iff, List.append_assoc, List.prefix_append_right_inj,
      List.cons_append, List.cons_prefix_cons] at inside
    exact delivery.stagingApart shipment.corpusClass inside.1

/-- Once all is settled and the staging directory is gone, the files are received. -/
theorem Settling.receives
    {old tree : FileTree}
    {delivery : Delivery machine old}
    {items : List (CorpusClass × Classified)}
    {ledger : Ledger}
    (settling :
      delivery.Settling (Shipment.all machine.names delivery.first items) [] ledger tree)
    (notEmpty : items ≠ []) :
    Receives machine.directory old (tree.prune (delivery.site.place delivery.root))
      ((Shipment.all machine.names delivery.first items).map
        (Shipment.stored (delivery.site.path delivery.output) delivery.size)) := by
  refine Delivery.receives ?_ ?_ (Shipment.all_ne_nil notEmpty)
    (settling.moved_eq ▸ settling.tracked.prune) (held_prune settling.stored) settling.bounds
  · exact fun shipment member => named_of_mem_all (Nat.le_refl _) member
  · exact pairwise_all (Nat.le_refl _) items

end Delivery

namespace Store

/-- Without a grammar, an attempt does nothing but take a name. -/
theorem attempt_of_empty
    (empty : partition.contents = [])
    (created : List Path) :
    attempt machine workspace partition output created =
      ((none, ⟨output, [], [], created⟩),
        { workspace with named := workspace.named + 1 }) := by
  simp only [attempt, stageAndSettle, empty, stage, settle, Work.perform_bind,
    Work.perform_pure]

section Deliveries

variable {created : List Path} {delivery : Delivery machine workspace.tree}

/-- An attempt of a delivery keeps everything accounted for. -/
theorem attempt_tracked
    {tried : (Option FileFailure × Ledger) × Workspace}
    (serves : delivery.Serves partition output created)
    (performed : attempt machine workspace partition output created = tried) :
    let all := Shipment.all machine.names delivery.first partition.contents
    delivery.Tracked tried.1.2.created tried.1.2.moved tried.2.tree ∧
      (tried.1.1 = none →
        tried.1.2.placements = all.map delivery.placement ∧
          delivery.Settling all [] tried.1.2 tried.2.tree ∧
          (all ≠ [] →
            delivery.RootHanded ∧
              tried.2.tree.isDirectory (delivery.site.place delivery.root) = true)) := by
  have ends := Delivery.stageAndSettle_tracked
    { workspace with named := workspace.named + 1 } serves.size_eq.symm rfl
      serves.first_eq.symm serves.listed
  rw [serves.output_eq, serves.root_eq] at ends
  unfold attempt at performed
  rw [performed] at ends
  exact ends

/-- Without a grammar nothing is staged, and the staging directory is not seen. -/
theorem persist_of_empty
    (serves : delivery.Serves partition output created)
    (found : ((FileWork.missing output).run.perform machine workspace).1 = .ok created)
    (empty : partition.contents = []) :
    let result := (persist partition output).run.perform machine workspace
    result.2.tree = workspace.tree ∧
      ((∀ failure,
        workspace.tree.lookAt machine.directory (stagingOf machine workspace output) ≠
          .error failure) →
        result.1 = .ok []) := by
  intro result
  have performed := @attempt_of_empty machine workspace output partition empty created
  have shape : result = _ := perform_persist_of_none found performed rfl rfl
  simp only at shape
  cases seen : workspace.tree.lookAt machine.directory
      (stagingOf machine workspace output) with
  | error failure =>
      rw [seen] at shape
      rw [shape]
      exact ⟨rfl, fun looked => absurd rfl (looked failure)⟩
  | ok entry =>
      rw [seen] at shape
      cases entry with
      | none =>
          rw [shape]
          exact ⟨rfl, fun _ => rfl⟩
      | some entry =>
          rw [← serves.root_eq] at seen
          exact absurd seen (delivery.lookAt_root_ne_some entry)

/-- Behind an attempt that ends well, the path of the staging directory leads to it. -/
theorem attempt_leads
    {tried : (Option FileFailure × Ledger) × Workspace}
    (serves : delivery.Serves partition output created)
    (performed : attempt machine workspace partition output created = tried)
    (ends : tried.1.1 = none)
    (notEmpty : partition.contents ≠ []) :
    FileWork.holdsNull (delivery.site.path delivery.root).text = false ∧
      tried.2.tree.resolve machine.directory (delivery.site.path delivery.root) =
        .ok (delivery.site.place delivery.root) ∧
      tried.2.tree.isDirectory (delivery.site.place delivery.root) = true := by
  obtain ⟨tracked, ended⟩ := attempt_tracked serves performed
  obtain ⟨-, -, root⟩ := ended ends
  obtain ⟨handed, isDirectory⟩ := root (Shipment.all_ne_nil notEmpty)
  exact ⟨handed.holdsNull, Delivery.resolve_root tracked isDirectory, isDirectory⟩

/-- If nothing fails, all shipments are stored and the staging directory is removed. -/
theorem persist_of_none
    {tried : (Option FileFailure × Ledger) × Workspace}
    (serves : delivery.Serves partition output created)
    (found : ((FileWork.missing output).run.perform machine workspace).1 = .ok created)
    (performed : attempt machine workspace partition output created = tried)
    (ends : tried.1.1 = none)
    (notEmpty : partition.contents ≠ [])
    (noFault : machine.faults tried.2.calls = none) :
    let result := (persist partition output).run.perform machine workspace
    let shipments :=
      Shipment.all machine.names (workspace.named + 1) partition.contents
    result.1 = .ok (shipments.map
        (Shipment.placement output (stagingOf machine workspace output) partition.size)) ∧
      Receives machine.directory workspace.tree result.2.tree
        (shipments.map (Shipment.stored output partition.size)) := by
  intro result shipments
  obtain ⟨-, ended⟩ := attempt_tracked serves performed
  obtain ⟨placements, settled, -⟩ := ended ends
  obtain ⟨handed, leads, isDirectory⟩ := attempt_leads serves performed ends notEmpty
  have seen := lookAt_of_resolve handed leads
  rw [isDirectory_iff.1 isDirectory] at seen
  have shape : result = _ := perform_persist_of_none found performed serves.root_eq.symm ends
  rw [seen] at shape
  simp only [FileWork.perform_removeTree handed leads isDirectory noFault] at shape
  rw [shape]
  refine ⟨?_, ?_⟩
  · rw [placements, serves.first_eq]
    unfold Delivery.placement
    rw [serves.output_eq, serves.root_eq, serves.size_eq]
    rfl
  · have receives := settled.receives notEmpty
    rwa [serves.first_eq, serves.output_eq, serves.size_eq] at receives

end Deliveries

/--
Storing a partition is all or nothing. If the missing directories cannot be told, nothing
is begun. If staging or settling fails at any point, its failure is raised for the file
at hand and the tree is as it was. If nothing fails, the tree has received one file for
each grammar of each class, and what is returned has the places of these files in order.
-/
theorem persist_all_or_nothing
    (partition : Partition)
    (output : Path)
    (machine : Machine)
    (workspace : Workspace)
    (grounded : workspace.tree.Grounded)
    (nameable : workspace.tree.Nameable)
    (home : workspace.tree.isDirectory machine.directory = true)
    (names : machine.NewNames workspace.tree workspace.named)
    (straight : workspace.tree.Straight machine.directory output) :
    let result := (persist partition output).run.perform machine workspace
    let staging := stagingOf machine workspace output
    let shipments :=
      Shipment.all machine.names (workspace.named + 1) partition.contents
    (∀ failure,
      ((FileWork.missing output).run.perform machine workspace).1 = .error failure →
        result.1 = .error (.file failure) ∧ result.2.tree = workspace.tree) ∧
      ∀ created,
        ((FileWork.missing output).run.perform machine workspace).1 = .ok created →
        let tried := attempt machine workspace partition output created
        (∀ failure, tried.1.1 = some failure →
          workspace.tree.Same result.2.tree ∧
            ∀ error, failure = .failed error →
              result.1 = .error (.batch tried.1.2.current.text error)) ∧
          (partition.contents = [] →
            result.2.tree = workspace.tree ∧
              ((∀ failure,
                workspace.tree.lookAt machine.directory staging ≠ .error failure) →
                  result.1 = .ok [])) ∧
          (tried.1.1 = none → partition.contents ≠ [] →
            machine.faults tried.2.calls = none →
              result.1 = .ok (shipments.map
                  (Shipment.placement output staging partition.size)) ∧
                Receives machine.directory workspace.tree result.2.tree
                  (shipments.map (Shipment.stored output partition.size))) := by
  intro result staging shipments
  refine ⟨?_, ?_⟩
  · intro failure fails
    rw [show result = _ from perform_persist_of_error fails]
    exact ⟨rfl, rfl⟩
  · intro created found tried
    obtain ⟨delivery, serves⟩ :=
      Delivery.exists_of_missing grounded nameable home names straight found partition
    refine ⟨?_, persist_of_empty serves found, ?_⟩
    · intro failure fails
      have performed : attempt machine workspace partition output created = tried := rfl
      obtain ⟨tracked, -⟩ := attempt_tracked serves performed
      rw [show result = _ from perform_persist_of_failure found performed fails,
        ← serves.root_eq]
      refine ⟨tracked.rollBack rfl, ?_⟩
      rintro error rfl
      rfl
    · intro ends notEmpty noFault
      exact persist_of_none serves found rfl ends notEmpty noFault

end Store

namespace Machine

/-- In the empty tree there is nothing but its root. -/
theorem find?_empty {location : Location} (below : location ≠ []) :
    FileTree.empty.find? location = none := by
  cases location with
  | nil => exact absurd rfl below
  | cons name parent => rfl

/-- The names of a machine on which nothing goes wrong are new in the empty tree. -/
theorem calm_newNames (first : Nat) : calm.NewNames .empty first where
  isName := by
    intro number _
    refine Path.isName_of_forall ?_ ?_
    · intro same
      have lengths := congrArg (·.toList.length) same
      simp [calm] at lengths
    · intro character member
      obtain rfl : character = 'x' := by simpa [calm] using member
      decide
  distinct := by
    intro number later _ further same
    have lengths := congrArg (·.toList.length) same
    simp only [calm, String.toList_ofList, List.length_replicate] at lengths
    omega
  unused := by
    intro number location _ member
    refine find?_empty ?_
    rintro rfl
    rcases member with named | staged
    · cases named
    · cases staged

end Machine

namespace Partition

/-- A partition with a single grammar, which both engines for LR(1) accept. -/
def single (size : Int) (text : String) : Partition :=
  let verdict : Verdict := { accepted := true, diagnostic := "" }
  ofResults size 1
    [{ trial := 0, size, text, paths := ⟨"", "", ""⟩, verdicts := ⟨verdict, verdict, verdict⟩ }]

end Partition

namespace Store

/-- A single grammar is stored below a directory that was missing, and nothing else is. -/
theorem persist_single :
    let workspace : Workspace := { tree := .empty }
    let output : Path := ⟨.relative, ["out"]⟩
    let result := (persist (.single 4 "S: ;") output).run.perform Machine.calm workspace
    result.1.toOption = some
        [⟨.lr1, ⟨.relative, ["out", ".staging-x", "lr1", "4", "xx"]⟩,
          ⟨.relative, ["out", "lr1", "4", "xx"]⟩⟩] ∧
      Receives [] .empty result.2.tree [(⟨.relative, ["out", "lr1", "4", "xx"]⟩, "S: ;")] := by
  intro workspace output result
  have nothingBelow : ∀ name parent,
      workspace.tree.contains (name :: parent) = true → False := by
    intro name parent holds
    cases holds
  have all := persist_all_or_nothing (.single 4 "S: ;") output Machine.calm workspace
    (fun name parent holds => (nothingBelow name parent holds).elim)
    (by
      intro location holds name member
      cases location with
      | nil => cases member
      | cons outer parent => cases nothingBelow outer parent holds)
    rfl (Machine.calm_newNames 0)
    (by
      intro before after whole
      have turns : ".." ∈ output.parts := by
        rw [whole]
        simp
      exact absurd turns (by decide))
  have found : ((FileWork.missing output).run.perform Machine.calm workspace).1 =
      .ok [output] :=
    eq_ok_of_toOption (by decide +kernel)
  obtain ⟨stored, receives⟩ := (all.2 [output] found).2.2 (by decide +kernel)
    (by decide +kernel) rfl
  have files : (Shipment.all Machine.calm.names 1 (Partition.single 4 "S: ;").contents).map
      (Shipment.stored output 4) = [(⟨.relative, ["out", "lr1", "4", "xx"]⟩, "S: ;")] := by
    decide +kernel
  refine ⟨?_, files ▸ receives⟩
  rw [show result.1 = _ from stored]
  decide +kernel

/--
Behind a place that is missing, two points lead to a directory that was there before and
was empty. It is listed as missing, and taken back with what was made.
-/
theorem persist_takes_directory_away :
    let workspace : Workspace :=
      { tree := (FileTree.empty.insert ["b"] .directory).insert ["f"] (.file .empty) }
    let output : Path := ⟨.relative, ["a", "..", "b", "..", "f"]⟩
    let result := (persist (.single 4 "S: ;") output).run.perform Machine.calm workspace
    workspace.tree.isDirectory ["b"] = true ∧
      result.1.isOk = false ∧
      result.2.tree.isDirectory ["b"] = false := by
  intro workspace output result
  obtain ⟨listed, isListed⟩ : ∃ listed : List Path, listed =
      [output, ⟨.relative, ["a", "..", "b", ".."]⟩, ⟨.relative, ["a", "..", "b"]⟩,
        ⟨.relative, ["a", ".."]⟩, ⟨.relative, ["a"]⟩] :=
    ⟨_, rfl⟩
  have found : ((FileWork.missing output).run.perform Machine.calm workspace).1 =
      .ok listed := by
    rw [isListed]
    exact eq_ok_of_toOption (by decide +kernel)
  obtain ⟨tried, performed⟩ : ∃ tried,
    attempt Machine.calm workspace (.single 4 "S: ;") output listed = tried := ⟨_, rfl⟩
  have fails : tried.1.1.isSome = true := by
    rw [← performed, isListed]
    decide +kernel
  obtain ⟨failure, failed⟩ := Option.isSome_iff_exists.1 fails
  have created : tried.1.2.created = listed := by
    rw [← performed, isListed]
    decide +kernel
  -- The list is in order already, so that sorting it need not be evaluated.
  have ordered : deepestFirst tried.1.2.created = listed := by
    rw [created, isListed]
    exact List.mergeSort_of_pairwise (by decide)
  refine ⟨by decide, ?_, ?_⟩
  · rw [show result = _ from perform_persist_of_failure found performed failed]
    rfl
  · rw [show result = _ from perform_persist_of_failure found performed failed]
    simp only [rollBack, ordered]
    rw [← performed, isListed]
    decide +kernel

end Store

end GrammarCorpus
