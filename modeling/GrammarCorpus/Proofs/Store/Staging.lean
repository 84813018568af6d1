import GrammarCorpus.Proofs.Store.Delivery

namespace GrammarCorpus

/-!
# Staging

Every shipment is written into the staging directory. However far staging comes, all
that is new is accounted for; if it comes to its end, all shipments are there.
-/

open FileTree

variable {machine : Machine} {workspace : Workspace} {old tree : FileTree}

/-- Staging takes the next name for the first item, and ends with it if that fails. -/
theorem Store.perform_stage_cons
    (output staging : Path)
    (size : Int)
    (corpusClass : CorpusClass)
    (classified : Classified)
    (rest : List (CorpusClass × Classified))
    (ledger : Ledger) :
    let name := machine.names workspace.named
    let placement : Placement :=
      ⟨corpusClass, place staging corpusClass size name, place output corpusClass size name⟩
    let reached := { ledger with current := placement.staged }
    let written := (writeBelow placement.staged classified.text).run.perform machine
      { workspace with named := workspace.named + 1 }
    (stage output staging size ((corpusClass, classified) :: rest) ledger).perform
        machine workspace =
      match written.1 with
      | .error failure => ((some failure, reached), written.2)
      | .ok () =>
          (stage output staging size rest
            { reached with placements := ledger.placements ++ [placement] }).perform
              machine written.2 := by
  intro name placement reached written
  have shape : (stage output staging size ((corpusClass, classified) :: rest) ledger).perform
      machine workspace = _ := Work.perform_bind Work.newName _ machine workspace
  simp only [Work.newName, Work.perform_bind, Work.perform_read,
    Work.perform_modifyGet] at shape
  rw [shape]
  cases written.1 <;> rfl

namespace Delivery

variable (delivery : Delivery machine old)

/-- All shipments stand at their places, with their texts. -/
def Held (place : Shipment → Location) (tree : FileTree) (shipments : List Shipment) : Prop :=
  ∀ shipment ∈ shipments, tree.find? (place shipment) = some (.file shipment.text.toUTF8)

/-- The new entries of a tree are accounted for, those in the staging directory at once. -/
def Tracked (created moved : List Path) (tree : FileTree) : Prop :=
  delivery.site.Residue created moved [delivery.root] tree

/-- Whatever is missing of the output directory is listed. -/
def Lists (created : List Path) : Prop :=
  ∀ taken, taken ≠ [] → taken <+: delivery.output → delivery.site.path taken ∈ created

/-- The name of the staging directory, and those of the output directory, hold no null. -/
def RootHanded : Prop :=
  ∀ part ∈ delivery.root, FileWork.holdsNull part = false

variable {delivery}
variable {created moved : List Path} {shipment : Shipment}

/-- Directories are made on the way, as far as they are listed or in the staging directory. -/
theorem makeDirectories_tracked
    {parts : List String}
    (tracked : delivery.Tracked created moved workspace.tree)
    (downward : delivery.site.Downward parts)
    (listed : ∀ taken,
      taken ≠ [] →
        taken <+: parts →
        workspace.tree.find? (delivery.site.place taken) = none →
        delivery.site.path taken ∈ created ∨ delivery.root <+: taken) :
    let after := (FileWork.makeDirectories (delivery.site.path parts)).run.perform
      machine workspace
    delivery.Tracked created moved after.2.tree ∧
      workspace.tree.Within after.2.tree ∧
      after.2.named = workspace.named := by
  intro after
  obtain ⟨furnished, -⟩ :=
    FileWork.Furnishes.makeDirectories machine (delivery.site.path parts) workspace
  refine ⟨tracked.furnish furnished downward ?_, furnished.within, ?_⟩
  · intro taken some inside free
    rcases listed taken some inside free with isListed | below
    · exact .inl isListed
    · exact .inr ⟨delivery.root, List.mem_singleton_self _, below⟩
  · exact Nameless.makeDirectoriesFrom _ _ machine workspace

/-- The directories above a staged shipment are the staging directory or on the way to it. -/
theorem listed_or_below_root
    {taken : List String}
    (lists : delivery.Lists created)
    (some : taken ≠ [])
    (inside : taken <+: delivery.folder delivery.root shipment.corpusClass) :
    delivery.site.path taken ∈ created ∨ delivery.root <+: taken := by
  have longer : delivery.root <+: delivery.folder delivery.root shipment.corpusClass :=
    List.prefix_append _ _
  rcases List.prefix_or_prefix_of_prefix inside longer with short | long
  · rcases List.prefix_concat_iff.1 short with whole | above
    · exact .inr (whole ▸ List.prefix_refl _)
    · exact .inl (lists taken some above)
  · exact .inr long

/-- A file that is put where a shipment is staged is accounted for. -/
theorem Tracked.insert_staged
    {entry : Entry}
    (named : delivery.Named shipment)
    (tracked : delivery.Tracked created moved tree)
    (above : tree.isDirectory (delivery.staged shipment).tail = true)
    (noDirectory : tree.isDirectory (delivery.staged shipment) = false) :
    delivery.Tracked created moved (tree.insert (delivery.staged shipment) entry) := by
  refine tracked.insert (free_file named delivery.root) above noDirectory ?_
  refine .staged (List.mem_singleton_self delivery.root) ?_ (root_ne_staged shipment).symm
  refine Site.place_suffix_iff.2 ?_
  exact (List.prefix_append _ _).trans (List.prefix_append _ _)

/-- If the path of a staged shipment can be handed over, so can that of its directory. -/
theorem rootHanded_of_holdsNull
    (handed : FileWork.holdsNull
      (delivery.site.path (delivery.file delivery.root shipment)).text = false) :
    delivery.RootHanded := by
  have longer : delivery.root <+: delivery.file delivery.root shipment :=
    (List.prefix_append _ _).trans (List.prefix_append _ _)
  rw [Path.holdsNull_text, List.any_eq_false] at handed
  intro part member
  rw [← Bool.not_eq_true]
  exact handed part (List.mem_append_right _ (longer.subset member))

/-- A shipment is written where directories have been made; if that fails, nothing is lost. -/
theorem write_staged
    (workspace : Workspace)
    (named : delivery.Named shipment)
    (tracked : delivery.Tracked created moved workspace.tree) :
    let after := (FileWork.write (delivery.site.path (delivery.file delivery.root shipment))
      shipment.text).run.perform machine workspace
    delivery.Tracked created moved after.2.tree ∧
      after.2.named = workspace.named ∧
      (∀ location entry,
        location ≠ delivery.staged shipment →
          workspace.tree.find? location = some entry →
          after.2.tree.find? location = some entry) ∧
      (after.1 = .ok () →
        after.2.tree.find? (delivery.staged shipment) =
            some (.file shipment.text.toUTF8) ∧
          delivery.RootHanded) := by
  intro after
  have sameNamed : after.2.named = workspace.named :=
    Nameless.write (delivery.site.path (delivery.file delivery.root shipment)) shipment.text
      machine workspace
  rcases FileWork.write_cases machine workspace
      (delivery.site.path (delivery.file delivery.root shipment)) shipment.text with
    ⟨failure, fails, same⟩ | ⟨location, content, leads, noDirectory, inserted, whole⟩
  · change after.1 = _ at fails
    change after.2.tree = _ at same
    refine ⟨?_, sameNamed, ?_, ?_⟩
    · rwa [same]
    · rw [same]
      exact fun location entry _ found => found
    · intro succeeds
      cases fails.symm.trans succeeds
  · change after.2.tree = _ at inserted
    obtain ⟨rfl, -, above⟩ := delivery.site.eq_place_of_resolve tracked.within
      (by simp [file]) (downward_stagedFile named) leads
    have below : delivery.site.place (delivery.file delivery.root shipment) ≠ [] :=
      Site.place_ne_nil (by simp [file])
    rw [inserted]
    refine ⟨Tracked.insert_staged named tracked above noDirectory, sameNamed, ?_, ?_⟩
    · intro location entry apart found
      rw [find?_insert_below below]
      exact (if_neg apart).trans found
    · intro succeeds
      rw [find?_insert_below below, whole succeeds]
      exact ⟨if_pos rfl, rootHanded_of_holdsNull (FileWork.holdsNull_of_write succeeds)⟩

/-- A shipment is written into the staging directory; if that fails, nothing is lost. -/
theorem writeBelow_staged
    (workspace : Workspace)
    (named : delivery.Named shipment)
    (tracked : delivery.Tracked created moved workspace.tree)
    (lists : delivery.Lists created) :
    let after := (Store.writeBelow
      (delivery.site.path (delivery.file delivery.root shipment)) shipment.text).run.perform
        machine workspace
    delivery.Tracked created moved after.2.tree ∧
      after.2.named = workspace.named ∧
      (∀ location entry,
        location ≠ delivery.staged shipment →
          workspace.tree.find? location = some entry →
          after.2.tree.find? location = some entry) ∧
      (after.1 = .ok () →
        after.2.tree.find? (delivery.staged shipment) =
            some (.file shipment.text.toUTF8) ∧
          delivery.RootHanded) := by
  intro after
  have shape : after = _ := Work.perform_run_bind _ _ machine workspace
  rw [parent_file] at shape
  obtain ⟨trackedMade, kept, namedMade⟩ := makeDirectories_tracked tracked
    (downward_stagedFolder shipment.corpusClass)
    fun taken some inside _ => listed_or_below_root lists some inside
  generalize (FileWork.makeDirectories (delivery.site.path
    (delivery.folder delivery.root shipment.corpusClass))).run.perform machine workspace =
      made at shape trackedMade kept namedMade
  cases ended : made.1 with
  | error failure =>
      simp only [ended] at shape
      rw [shape]
      exact ⟨trackedMade, namedMade, fun location entry _ => kept location entry, nofun⟩
  | ok value =>
      simp only [ended] at shape
      rw [shape]
      obtain ⟨trackedWritten, namedWritten, keptWritten, staged⟩ :=
        write_staged made.2 named trackedMade
      exact ⟨trackedWritten, namedWritten.trans namedMade,
        fun location entry apart found =>
          keptWritten location entry apart (kept location entry found), staged⟩

/-- Staging takes the next name for the first item, and ends with it if that fails. -/
theorem perform_stage_cons
    {corpusClass : CorpusClass}
    {classified : Classified}
    (rest : List (CorpusClass × Classified))
    (ledger : Ledger)
    {written : Except FileFailure Unit × Workspace}
    (next : shipment = ⟨corpusClass, machine.names workspace.named, classified.text⟩)
    (performed : (Store.writeBelow (delivery.placement shipment).staged
      shipment.text).run.perform machine { workspace with named := workspace.named + 1 } =
        written) :
    let after := (Store.stage (delivery.site.path delivery.output)
      (delivery.site.path delivery.root) delivery.size
        ((corpusClass, classified) :: rest) ledger).perform machine workspace
    let current := (delivery.placement shipment).staged
    (∀ failure, written.1 = .error failure →
      after = ((some failure, { ledger with current }), written.2)) ∧
      (written.1 = .ok () →
        after = (Store.stage (delivery.site.path delivery.output)
          (delivery.site.path delivery.root) delivery.size rest
            { ledger with
              current
              placements := ledger.placements ++ [delivery.placement shipment] }).perform
                machine written.2) := by
  intro after current
  subst next performed
  have shape : after = _ := Store.perform_stage_cons _ _ _ corpusClass classified rest ledger
  refine ⟨?_, ?_⟩
  · intro failure fails
    rw [shape]
    simp only [Delivery.placement, Shipment.placement] at fails
    rw [fails]
    rfl
  · intro succeeds
    rw [shape]
    simp only [Delivery.placement, Shipment.placement] at succeeds
    rw [succeeds]
    rfl

/-- How far staging has come: some shipments stand in the staging directory. -/
structure Staging
    (delivery : Delivery machine old)
    (done : List Shipment)
    (ledger : Ledger)
    (workspace : Workspace) : Prop where
  tracked : delivery.Tracked ledger.created ledger.moved workspace.tree
  lists : delivery.Lists ledger.created
  begun : delivery.first ≤ workspace.named
  apart : ∀ shipment ∈ done, ∀ number,
    workspace.named ≤ number → shipment.name ≠ machine.names number
  staged : Held delivery.staged workspace.tree done
  handed : done ≠ [] → delivery.RootHanded
  placements_eq : ledger.placements = done.map delivery.placement

/-- Staging is one shipment further when the next one is written. -/
theorem Staging.next
    {corpusClass : CorpusClass}
    {text : String}
    {done : List Shipment}
    {ledger : Ledger}
    {after : Workspace}
    (staging : delivery.Staging done ledger workspace)
    (isNext : shipment = ⟨corpusClass, machine.names workspace.named, text⟩)
    (tracked : delivery.Tracked ledger.created ledger.moved after.tree)
    (named : after.named = workspace.named + 1)
    (kept : ∀ location entry,
      location ≠ delivery.staged shipment →
        workspace.tree.find? location = some entry →
        after.tree.find? location = some entry)
    (staged : after.tree.find? (delivery.staged shipment) =
      some (.file shipment.text.toUTF8))
    (handed : delivery.RootHanded) :
    delivery.Staging (done ++ [shipment])
      { ledger with
        current := (delivery.placement shipment).staged
        placements := ledger.placements ++ [delivery.placement shipment] } after where
  tracked := tracked
  lists := staging.lists
  begun := by
    rw [named]
    exact Nat.le_succ_of_le staging.begun
  apart := by
    intro other member number further
    rw [named] at further
    rcases List.mem_append.1 member with before | itself
    · exact staging.apart other before number (Nat.le_of_succ_le further)
    · rw [List.mem_singleton.1 itself, isNext]
      exact delivery.names.distinct workspace.named number staging.begun further
  staged := by
    intro other member
    rcases List.mem_append.1 member with before | itself
    · refine kept _ _ (place_file_ne_place_file _ ?_) (staging.staged other before)
      rw [isNext]
      exact staging.apart other before workspace.named (Nat.le_refl _)
    · rw [List.mem_singleton.1 itself]
      exact staged
  handed _ := handed
  placements_eq := by
    rw [staging.placements_eq, List.map_append]
    rfl

/--
Staging shipments one after the other keeps everything accounted for. If none of them
fails, all are staged, and the ledger has their places.
-/
theorem stage_tracked
    {done : List Shipment}
    {ledger : Ledger}
    (items : List (CorpusClass × Classified))
    (workspace : Workspace)
    (staging : delivery.Staging done ledger workspace) :
    let after := (Store.stage (delivery.site.path delivery.output)
      (delivery.site.path delivery.root) delivery.size items ledger).perform machine workspace
    delivery.Tracked ledger.created ledger.moved after.2.tree ∧
      after.1.2.created = ledger.created ∧
      after.1.2.moved = ledger.moved ∧
      (after.1.1 = none →
        delivery.Staging (done ++ Shipment.all machine.names workspace.named items)
          after.1.2 after.2) := by
  induction items generalizing done ledger workspace with
  | nil =>
      refine ⟨staging.tracked, rfl, rfl, fun _ => ?_⟩
      simp only [Shipment.all, List.append_nil]
      exact staging
  | cons item rest inductionHypothesis =>
      obtain ⟨corpusClass, classified⟩ := item
      intro after
      obtain ⟨shipment, next⟩ : ∃ shipment : Shipment,
        shipment = ⟨corpusClass, machine.names workspace.named, classified.text⟩ := ⟨_, rfl⟩
      have named : delivery.Named shipment := ⟨workspace.named, staging.begun, by rw [next]⟩
      obtain ⟨written, performed⟩ : ∃ written,
        (Store.writeBelow (delivery.placement shipment).staged shipment.text).run.perform
          machine { workspace with named := workspace.named + 1 } = written := ⟨_, rfl⟩
      obtain ⟨trackedWritten, namedWritten, kept, holds⟩ :=
        writeBelow_staged { workspace with named := workspace.named + 1 }
          named staging.tracked staging.lists
      rw [← placement_staged named, performed] at trackedWritten namedWritten kept holds
      obtain ⟨failed, succeeded⟩ := perform_stage_cons rest ledger next performed
      cases ended : written.1 with
      | error failure =>
          rw [show after = _ from failed failure ended]
          exact ⟨trackedWritten, rfl, rfl, nofun⟩
      | ok value =>
          rw [show after = _ from succeeded ended]
          obtain ⟨staged, handed⟩ := holds ended
          have further :=
            staging.next next trackedWritten namedWritten kept staged handed
          have reached : done ++ Shipment.all machine.names workspace.named
                ((corpusClass, classified) :: rest) =
              (done ++ [shipment]) ++ Shipment.all machine.names written.2.named rest := by
            rw [namedWritten, next, List.append_assoc]
            rfl
          rw [reached]
          exact inductionHypothesis written.2 further

end Delivery

end GrammarCorpus
