import GrammarCorpus.Proofs.Store.Missing
import GrammarCorpus.Proofs.Store.Staging

namespace GrammarCorpus

/-!
# Settling

Every staged shipment is moved to where it is stored, after all that is missing on the
way was listed. However far this comes, all that is new is accounted for; if it comes to
its end, all shipments are stored, and only directories above them have been made.
-/

open FileTree

variable {machine : Machine} {workspace : Workspace} {old tree : FileTree}

namespace Delivery

variable {delivery : Delivery machine old}
variable {created moved : List Path} {shipment : Shipment}

/-- The tree in which a staged shipment has been taken away and put where it is stored. -/
def settledTree
    (delivery : Delivery machine old)
    (shipment : Shipment)
    (tree : FileTree) : FileTree :=
  (tree.erase (delivery.staged shipment)).insert (delivery.stored shipment)
    (.file shipment.text.toUTF8)

/-- Behind the move, the shipment is accounted for at its new place. -/
theorem Tracked.settled
    (named : delivery.Named shipment)
    (tracked : delivery.Tracked created moved tree)
    (held : tree.find? (delivery.staged shipment) = some (.file shipment.text.toUTF8))
    (usable : delivery.site.Usable (delivery.file delivery.output shipment))
    (above : tree.isDirectory (delivery.stored shipment).tail = true)
    (noDirectory :
      (tree.erase (delivery.staged shipment)).isDirectory (delivery.stored shipment) = false) :
    delivery.Tracked created
      (moved ++ [delivery.site.path (delivery.file delivery.output shipment)])
      (delivery.settledTree shipment tree) := by
  have belowStaged : delivery.site.place (delivery.file delivery.root shipment) ≠ [] :=
    Site.place_ne_nil (by simp [Delivery.file])
  have erased := tracked.eraseFile (free_file named delivery.root) held
  refine (erased.relist (List.Subset.refl _) (List.subset_append_left _ _)
    tracked.freshCreated ?_).insert (free_file named delivery.output) ?_
      noDirectory (.moved (by simp) usable)
  · intro path member
    rcases List.mem_append.1 member with before | itself
    · exact tracked.freshMoved path before
    · exact List.mem_singleton.1 itself ▸ fresh_stored named
  · rw [isDirectory_iff, find?_erase_below belowStaged, if_neg]
    · exact isDirectory_iff.1 above
    · intro same
      rw [same, isDirectory_iff] at above
      cases held.symm.trans above

/-- Behind the move, the shipment stands at its new place. -/
theorem find?_settledTree_stored :
    (delivery.settledTree shipment tree).find? (delivery.stored shipment) =
      some (.file shipment.text.toUTF8) := by
  have belowStored : delivery.stored shipment ≠ [] :=
    Site.place_ne_nil (by simp [Delivery.file])
  rw [settledTree, find?_insert_below belowStored]
  exact if_pos rfl

/-- All but the two places of the shipment is as it was. -/
theorem find?_settledTree
    {location : Location}
    (notStaged : location ≠ delivery.staged shipment)
    (notStored : location ≠ delivery.stored shipment) :
    (delivery.settledTree shipment tree).find? location = tree.find? location := by
  have belowStaged : delivery.staged shipment ≠ [] :=
    Site.place_ne_nil (by simp [Delivery.file])
  have belowStored : delivery.stored shipment ≠ [] :=
    Site.place_ne_nil (by simp [Delivery.file])
  rw [settledTree, find?_insert_below belowStored, find?_erase_below belowStaged]
  exact (if_neg notStored).trans (if_neg notStaged)

/-- A staged shipment is moved to its place; if that fails, nothing is lost. -/
theorem moveBelow_stored
    (named : delivery.Named shipment)
    (tracked : delivery.Tracked created moved workspace.tree)
    (listed : ∀ taken,
      taken ≠ [] →
        taken <+: delivery.folder delivery.output shipment.corpusClass →
        workspace.tree.find? (delivery.site.place taken) = none →
        delivery.site.path taken ∈ created)
    (held : workspace.tree.find? (delivery.staged shipment) =
      some (.file shipment.text.toUTF8)) :
    let source := delivery.site.path (delivery.file delivery.root shipment)
    let target := delivery.site.path (delivery.file delivery.output shipment)
    let after := (Store.moveBelow source target).run.perform machine workspace
    (∀ failure, after.1 = .error failure → delivery.Tracked created moved after.2.tree) ∧
      (after.1 = .ok () →
        delivery.Tracked created (moved ++ [target]) after.2.tree ∧
          after.2.tree.find? (delivery.stored shipment) =
            some (.file shipment.text.toUTF8) ∧
          ∀ location entry,
            location ≠ delivery.staged shipment →
              location ≠ delivery.stored shipment →
              workspace.tree.find? location = some entry →
              after.2.tree.find? location = some entry) := by
  intro source target after
  have shape : after = _ := Work.perform_run_bind _ _ machine workspace
  rw [parent_file] at shape
  obtain ⟨made, performed⟩ : ∃ made,
    (FileWork.makeDirectories (delivery.site.path
      (delivery.folder delivery.output shipment.corpusClass))).run.perform machine workspace =
        made := ⟨_, rfl⟩
  obtain ⟨trackedMade, kept, -⟩ := makeDirectories_tracked tracked
    (downward_folder shipment.corpusClass)
    fun taken some inside free => .inl (listed taken some inside free)
  rw [performed] at shape trackedMade kept
  cases ended : made.1 with
  | error failure =>
      rw [ended] at shape
      rw [shape]
      exact ⟨fun _ _ => trackedMade, nofun⟩
  | ok value =>
      simp only [ended] at shape
      rw [shape]
      rcases FileWork.move_cases machine made.2 source target with
        ⟨failure, fails, same⟩ |
        ⟨origin, location, content, succeeds, leads, leadsThen, file, noDirectory, settled⟩
      · refine ⟨?_, ?_⟩
        · intro _ _
          rwa [same]
        · intro succeeds
          cases fails.symm.trans succeeds
      · refine ⟨?_, fun _ => ?_⟩
        · intro failure fails
          cases fails.symm.trans succeeds
        · obtain ⟨rfl, -, -⟩ := delivery.site.eq_place_of_resolve trackedMade.within
            (by simp [Delivery.file]) (downward_stagedFile named) leads
          obtain ⟨rfl, usable, above⟩ := delivery.site.eq_place_of_resolve trackedMade.within
            (by simp [Delivery.file]) (downward_storedFile named) leadsThen
          have heldMade := kept _ _ held
          obtain rfl : shipment.text.toUTF8 = content := by
            cases file.symm.trans heldMade
            rfl
          rw [show _ = delivery.settledTree shipment made.2.tree from settled]
          refine ⟨Tracked.settled named trackedMade heldMade usable above noDirectory,
            find?_settledTree_stored, ?_⟩
          intro place entry notStaged notStored found
          exact (find?_settledTree notStaged notStored).trans (kept _ _ found)

/-- Settling lists what is missing for the first file, and ends with it if that fails. -/
theorem perform_settle_cons
    (rest : List Placement)
    (ledger : Ledger)
    {placement : Placement}
    {listed : Except FileFailure (List Path)}
    {result : Except FileFailure Unit × Workspace}
    (found : ((FileWork.missing placement.stored.parent).run.perform machine workspace).1 =
      listed)
    (performed : (Store.moveBelow placement.staged placement.stored).run.perform
      machine workspace = result) :
    let after := (Store.settle (placement :: rest) ledger).perform machine workspace
    let current := placement.stored
    (∀ failure, listed = .error failure →
      after = ((some failure, { ledger with current }), workspace)) ∧
      ∀ more, listed = .ok more →
        (∀ failure, result.1 = .error failure →
          after =
            ((some failure, { ledger with current, created := ledger.created ++ more }),
              result.2)) ∧
          (result.1 = .ok () →
            after = (Store.settle rest
              { ledger with
                current
                created := ledger.created ++ more
                moved := ledger.moved ++ [placement.stored] }).perform machine result.2) := by
  intro after current
  have shape : after = _ :=
    Work.perform_bind (FileWork.missing placement.stored.parent).run _ machine workspace
  have unchanged : ((FileWork.missing placement.stored.parent).run.perform
      machine workspace).2 = workspace := FileWork.perform_missingFrom_snd _ _
  rw [unchanged, found] at shape
  refine ⟨?_, ?_⟩
  · rintro failure rfl
    rw [shape]
    rfl
  · rintro more rfl
    simp only [Work.perform_bind, performed] at shape
    refine ⟨?_, ?_⟩
    · intro failure fails
      rw [shape, fails]
      rfl
    · intro succeeds
      rw [shape, succeeds]

/-- Only directories above shipments, or on the way to the output directory, are listed. -/
def Bounds (delivery : Delivery machine old) (shipments : List Shipment) (created : List Path) :
    Prop :=
  ∀ path ∈ created, ∃ taken,
    path = delivery.site.path taken ∧
      (taken <+: delivery.output ∨
        ∃ shipment ∈ shipments,
          taken <+: delivery.folder delivery.output shipment.corpusClass)

/-- How far settling has come: some shipments are stored, the others are still staged. -/
structure Settling
    (delivery : Delivery machine old)
    (done pending : List Shipment)
    (ledger : Ledger)
    (tree : FileTree) : Prop where
  named : ∀ shipment ∈ pending, delivery.Named shipment
  apart : (done ++ pending).Pairwise fun first second => first.name ≠ second.name
  tracked : delivery.Tracked ledger.created ledger.moved tree
  staged : Held delivery.staged tree pending
  stored : Held delivery.stored tree done
  bounds : delivery.Bounds done ledger.created
  moved_eq : ledger.moved = done.map fun shipment =>
    delivery.site.path (delivery.file delivery.output shipment)

/-- What is missing of the directory of a class. -/
def Missing
    (delivery : Delivery machine old)
    (workspace : Workspace)
    (corpusClass : CorpusClass)
    (more : List Path) : Prop :=
  ((FileWork.missing (delivery.site.path
    (delivery.folder delivery.output corpusClass))).run.perform machine workspace).1 = .ok more

/-- What is missing can be listed too, and all of it that is free is listed then. -/
theorem Tracked.missing
    {more : List Path}
    {corpusClass : CorpusClass}
    (tracked : delivery.Tracked created moved workspace.tree)
    (found : delivery.Missing workspace corpusClass more) :
    delivery.Tracked (created ++ more) moved workspace.tree ∧
      ∀ taken,
        taken ≠ [] →
          taken <+: delivery.folder delivery.output corpusClass →
          workspace.tree.find? (delivery.site.place taken) = none →
          delivery.site.path taken ∈ created ++ more := by
  have freshMore : ∀ path ∈ created ++ more, delivery.site.Fresh path := by
    intro path member
    rcases List.mem_append.1 member with before | added
    · exact tracked.freshCreated path before
    · obtain ⟨taken, some, inside, rfl, free⟩ :=
        Site.fresh_of_mem_missing tracked.within tracked.grounded delivery.nameable
          delivery.nullFree (downward_folder corpusClass) found added
      exact ⟨taken, some, (downward_folder corpusClass).of_beginning inside, rfl, free⟩
  refine ⟨tracked.relist (List.subset_append_left _ _) (List.Subset.refl _) freshMore
    tracked.freshMoved, ?_⟩
  intro taken some inside free
  exact List.mem_append_right _ (Site.mem_missing_of_free tracked.within
    (downward_folder corpusClass) found some inside free)

/-- What is missing above one more shipment stays within the bounds. -/
theorem Bounds.missing
    {done : List Shipment}
    {more : List Path}
    (tracked : delivery.Tracked created moved workspace.tree)
    (bounds : delivery.Bounds done created)
    (found : delivery.Missing workspace shipment.corpusClass more) :
    delivery.Bounds (done ++ [shipment]) (created ++ more) := by
  intro path member
  rcases List.mem_append.1 member with before | added
  · obtain ⟨taken, same, inside⟩ := bounds path before
    refine ⟨taken, same, inside.imp_right ?_⟩
    rintro ⟨other, isDone, above⟩
    exact ⟨other, List.mem_append_left _ isDone, above⟩
  · obtain ⟨taken, -, inside, same, -⟩ :=
      Site.fresh_of_mem_missing tracked.within tracked.grounded delivery.nameable
        delivery.nullFree (downward_folder shipment.corpusClass) found added
    exact ⟨taken, same, .inr ⟨shipment, by simp, inside⟩⟩

/-- Settling is one shipment further when the first staged one is stored. -/
theorem Settling.next
    {done rest : List Shipment}
    {ledger : Ledger}
    {more : List Path}
    {after : FileTree}
    (settling : delivery.Settling done (shipment :: rest) ledger workspace.tree)
    (found : delivery.Missing workspace shipment.corpusClass more)
    (tracked : delivery.Tracked (ledger.created ++ more)
      (ledger.moved ++ [delivery.site.path (delivery.file delivery.output shipment)]) after)
    (stored : after.find? (delivery.stored shipment) = some (.file shipment.text.toUTF8))
    (kept : ∀ location entry,
      location ≠ delivery.staged shipment →
        location ≠ delivery.stored shipment →
        workspace.tree.find? location = some entry →
        after.find? location = some entry) :
    delivery.Settling (done ++ [shipment]) rest
      { ledger with
        current := (delivery.placement shipment).stored
        created := ledger.created ++ more
        moved := ledger.moved ++
          [delivery.site.path (delivery.file delivery.output shipment)] } after where
  named other member := settling.named other (List.mem_cons_of_mem _ member)
  apart := by
    rw [List.append_assoc]
    exact settling.apart
  tracked := tracked
  staged := by
    intro other member
    have apartOf : shipment.name ≠ other.name :=
      (List.pairwise_cons.1 (List.pairwise_append.1 settling.apart).2.1).1 other member
    refine kept _ _ ?_ (staged_ne_stored other shipment)
      (settling.staged other (List.mem_cons_of_mem _ member))
    exact place_file_ne_place_file _ apartOf.symm
  stored := by
    intro other member
    rcases List.mem_append.1 member with before | itself
    · have apartFrom : other.name ≠ shipment.name :=
        (List.pairwise_append.1 settling.apart).2.2 other before shipment List.mem_cons_self
      exact kept _ _ (staged_ne_stored shipment other).symm
        (place_file_ne_place_file _ apartFrom) (settling.stored other before)
    · rw [List.mem_singleton.1 itself]
      exact stored
  bounds := settling.bounds.missing settling.tracked found
  moved_eq := by
    rw [List.map_append, ← settling.moved_eq]
    rfl

/--
Settling files one after the other keeps everything accounted for. If none of them
fails, all are stored, and the staging directory is still there.
-/
theorem settle_tracked
    {done pending : List Shipment}
    {ledger : Ledger}
    (workspace : Workspace)
    (settling : delivery.Settling done pending ledger workspace.tree) :
    let after := (Store.settle (pending.map delivery.placement) ledger).perform
      machine workspace
    delivery.Tracked after.1.2.created after.1.2.moved after.2.tree ∧
      (after.1.1 = none →
        after.1.2.placements = ledger.placements ∧
          delivery.Settling (done ++ pending) [] after.1.2 after.2.tree ∧
          ∀ entry,
            workspace.tree.find? (delivery.site.place delivery.root) = some entry →
              after.2.tree.find? (delivery.site.place delivery.root) = some entry) := by
  induction pending generalizing done ledger workspace with
  | nil =>
      rw [List.append_nil]
      exact ⟨settling.tracked, fun _ => ⟨rfl, settling, fun _ found => found⟩⟩
  | cons shipment rest inductionHypothesis =>
      intro after
      have isNamed := settling.named shipment List.mem_cons_self
      have path := placement_stored isNamed
      obtain ⟨missing, found⟩ : ∃ missing,
        ((FileWork.missing (delivery.placement shipment).stored.parent).run.perform
          machine workspace).1 = missing := ⟨_, rfl⟩
      obtain ⟨result, performed⟩ : ∃ result,
        (Store.moveBelow (delivery.placement shipment).staged
          (delivery.placement shipment).stored).run.perform machine workspace = result :=
        ⟨_, rfl⟩
      obtain ⟨failed, reached⟩ :=
        perform_settle_cons (rest.map delivery.placement) ledger found performed
      cases missing with
      | error failure =>
          rw [show after = _ from failed failure rfl]
          exact ⟨settling.tracked, nofun⟩
      | ok more =>
          obtain ⟨failedThen, succeeded⟩ := reached more rfl
          rw [path, parent_file] at found
          obtain ⟨trackedMore, listed⟩ := Tracked.missing settling.tracked found
          obtain ⟨stays, moves⟩ := moveBelow_stored isNamed trackedMore listed
            (settling.staged shipment List.mem_cons_self)
          rw [← path, ← placement_staged isNamed, performed] at stays moves
          cases ended : result.1 with
          | error failure =>
              rw [show after = _ from failedThen failure ended]
              exact ⟨stays failure ended, nofun⟩
          | ok value =>
              rw [show after = _ from succeeded ended]
              obtain ⟨trackedMoved, stored, kept⟩ := moves ended
              rw [path] at trackedMoved ⊢
              have next := settling.next found trackedMoved stored kept
              obtain ⟨trackedEnd, ends⟩ := inductionHypothesis result.2 (path ▸ next)
              refine ⟨trackedEnd, fun finished => ?_⟩
              obtain ⟨placements, settled, root⟩ := ends finished
              rw [List.append_assoc] at settled
              refine ⟨placements, settled, ?_⟩
              intro entry holds
              exact root entry (kept _ entry (root_ne_staged shipment)
                (root_ne_stored shipment) holds)

end Delivery

end GrammarCorpus
