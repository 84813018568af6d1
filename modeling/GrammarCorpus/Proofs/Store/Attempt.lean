import GrammarCorpus.Proofs.Store.Settling

namespace GrammarCorpus

/-!
# Attempts

An attempt stages all shipments and settles them. If it fails, taking back what the
ledger lists leaves the old tree. If it comes to its end, the staging directory is all
that has to go.
-/

open FileTree

/--
The second tree is the first one with files added: each file where its path leads, with
its text, and otherwise nothing but directories above these files.
-/
structure Receives
    (directory : Location)
    (before after : FileTree)
    (files : List (Path × String)) : Prop where
  kept : before.Within after
  stored : ∀ file ∈ files, ∃ location,
    after.resolve directory file.1 = .ok location ∧
      before.find? location = none ∧
      after.find? location = some (.file file.2.toUTF8) ∧
      ∀ above, above <:+ location → above ≠ location → after.isDirectory above = true
  apart : files.Pairwise fun first second =>
    after.resolve directory first.1 ≠ after.resolve directory second.1
  nothingElse : ∀ location entry,
    after.find? location = some entry →
      before.find? location = none →
      ∃ file ∈ files, ∃ place,
        after.resolve directory file.1 = .ok place ∧
          location <:+ place ∧
          (location ≠ place → entry = .directory)

variable {machine : Machine} {old tree : FileTree}

namespace Shipment

/-- The file of a shipment in a corpus. -/
def stored (output : Path) (size : Int) (shipment : Shipment) : Path × String :=
  (Store.place output shipment.corpusClass size shipment.name, shipment.text)

/-- Each item has a shipment with its class and its text. -/
theorem map_all (names : Nat → String) (number : Nat) (items : List (CorpusClass × Classified)) :
    (all names number items).map (fun shipment => (shipment.corpusClass, shipment.text)) =
      items.map fun item => (item.1, item.2.text) := by
  induction items generalizing number with
  | nil => rfl
  | cons item rest inductionHypothesis =>
      simp only [all, List.map_cons, inductionHypothesis]

/-- Where there is an item, there is a shipment. -/
theorem all_ne_nil
    {names : Nat → String}
    {number : Nat}
    {items : List (CorpusClass × Classified)}
    (some : items ≠ []) :
    all names number items ≠ [] := by
  cases items with
  | nil => exact absurd rfl some
  | cons item rest => exact List.cons_ne_nil _ _

end Shipment

namespace Delivery

variable {delivery : Delivery machine old}

/-- Shipments in a row have different names. -/
theorem pairwise_all
    {number : Nat}
    (begun : delivery.first ≤ number)
    (items : List (CorpusClass × Classified)) :
    (Shipment.all machine.names number items).Pairwise fun first second =>
      first.name ≠ second.name := by
  induction items generalizing number with
  | nil => exact .nil
  | cons item rest inductionHypothesis =>
      refine .cons ?_ (inductionHypothesis (Nat.le_succ_of_le begun))
      intro other member
      obtain ⟨later, further, named⟩ := Shipment.exists_number_of_mem_all member
      rw [named]
      exact delivery.names.distinct number later begun further

/-- Where shipments have been staged, the staging directory is there. -/
theorem isDirectory_root
    {created moved : List Path}
    {shipments : List Shipment}
    (tracked : delivery.Tracked created moved tree)
    (held : Held delivery.staged tree shipments)
    (notEmpty : shipments ≠ []) :
    tree.isDirectory (delivery.site.place delivery.root) = true := by
  obtain ⟨shipment, first⟩ := List.exists_mem_of_ne_nil _ notEmpty
  have here := held shipment first
  unfold Delivery.staged at here
  rw [site_place_file] at here
  refine tracked.grounded.isDirectory_of_suffix (contains_iff.2 ⟨_, here⟩) ?_
  exact Site.place_suffix_iff.2 (List.prefix_append _ _)

/-- What is missing of the output directory is a ledger to begin with. -/
theorem Staging.start
    {created : List Path}
    {workspace : Workspace}
    (same : workspace.tree = old)
    (begun : workspace.named = delivery.first)
    (isMissing : ∀ path, path ∈ created ↔
      ∃ taken, taken ≠ [] ∧ taken <+: delivery.output ∧ path = delivery.site.path taken) :
    delivery.Staging []
      { current := delivery.site.path delivery.output, placements := [], moved := [], created }
      workspace where
  tracked := by
    rw [same]
    refine .refl delivery.site ?_ ?_
    · intro path member
      obtain ⟨taken, some, inside, rfl⟩ := (isMissing path).1 member
      exact ⟨taken, some, delivery.downward.of_beginning inside, rfl,
        delivery.outputFree taken some inside⟩
    · intro parts isRoot
      exact List.mem_singleton.1 isRoot ▸ fresh_root
  lists taken some inside := (isMissing _).2 ⟨taken, some, inside, rfl⟩
  begun := Nat.le_of_eq begun.symm
  apart := nofun
  staged := nofun
  handed := nofun
  placements_eq := rfl

/--
Settling all that is staged keeps everything accounted for. If it comes to its end, all
shipments are stored, and what else is new lies above them or in the staging directory.
-/
theorem settle_staged
    {items : List (CorpusClass × Classified)}
    {ledger : Ledger}
    (workspace : Workspace)
    (staging :
      delivery.Staging (Shipment.all machine.names delivery.first items) ledger workspace)
    (bounds : delivery.Bounds [] ledger.created)
    (unmoved : ledger.moved = []) :
    let after := (Store.settle ledger.placements ledger).perform machine workspace
    let all := Shipment.all machine.names delivery.first items
    delivery.Tracked after.1.2.created after.1.2.moved after.2.tree ∧
      (after.1.1 = none →
        after.1.2.placements = all.map delivery.placement ∧
          delivery.Settling all [] after.1.2 after.2.tree ∧
          (all ≠ [] →
            delivery.RootHanded ∧
              after.2.tree.isDirectory (delivery.site.place delivery.root) = true)) := by
  intro after all
  have settling : delivery.Settling [] all ledger workspace.tree := {
    named := fun shipment member => named_of_mem_all (Nat.le_refl _) member
    apart := pairwise_all (Nat.le_refl _) items
    tracked := staging.tracked
    staged := staging.staged
    stored := nofun
    bounds
    moved_eq := unmoved }
  obtain ⟨tracked, finishes⟩ := settle_tracked workspace settling
  rw [← staging.placements_eq] at tracked finishes
  refine ⟨tracked, fun finished => ?_⟩
  obtain ⟨kept, settled, root⟩ := finishes finished
  refine ⟨kept.trans staging.placements_eq, settled, fun notEmpty => ?_⟩
  refine ⟨staging.handed notEmpty, ?_⟩
  rw [isDirectory_iff]
  exact root _ (isDirectory_iff.1 (isDirectory_root staging.tracked staging.staged notEmpty))

/--
An attempt keeps everything accounted for. If it comes to its end, all shipments are
stored, and what else is new lies above them or in the staging directory.
-/
theorem stageAndSettle_tracked
    {partition : Partition}
    {created : List Path}
    (workspace : Workspace)
    (size : partition.size = delivery.size)
    (same : workspace.tree = old)
    (begun : workspace.named = delivery.first)
    (isMissing : ∀ path, path ∈ created ↔
      ∃ taken, taken ≠ [] ∧ taken <+: delivery.output ∧ path = delivery.site.path taken) :
    let after := (Store.stageAndSettle partition (delivery.site.path delivery.output)
      (delivery.site.path delivery.root) created).perform machine workspace
    let all := Shipment.all machine.names delivery.first partition.contents
    delivery.Tracked after.1.2.created after.1.2.moved after.2.tree ∧
      (after.1.1 = none →
        after.1.2.placements = all.map delivery.placement ∧
          delivery.Settling all [] after.1.2 after.2.tree ∧
          (all ≠ [] →
            delivery.RootHanded ∧
              after.2.tree.isDirectory (delivery.site.place delivery.root) = true)) := by
  intro after all
  have staging := Staging.start same begun isMissing
  obtain ⟨start, isStart⟩ : ∃ start : Ledger, start =
    { current := delivery.site.path delivery.output, placements := [], moved := [], created } :=
    ⟨_, rfl⟩
  obtain ⟨staged, performed⟩ : ∃ staged,
    (Store.stage (delivery.site.path delivery.output) (delivery.site.path delivery.root)
      delivery.size partition.contents start).perform machine workspace = staged := ⟨_, rfl⟩
  have shape : after = _ := Work.perform_bind _ _ machine workspace
  rw [size, ← isStart, performed] at shape
  rw [← isStart] at staging
  obtain ⟨tracked, sameCreated, sameMoved, ends⟩ :=
    stage_tracked partition.contents workspace staging
  rw [performed] at tracked sameCreated sameMoved ends
  rw [List.nil_append, begun] at ends
  cases ended : staged.1.1 with
  | some failure =>
      have stops : after = ((some failure, staged.1.2), staged.2) := by
        rw [shape]
        obtain ⟨⟨failed, ledger⟩, reached⟩ := staged
        cases ended
        rfl
      rw [stops]
      rw [← sameCreated, ← sameMoved] at tracked
      exact ⟨tracked, nofun⟩
  | none =>
      have goesOn : after =
          (Store.settle staged.1.2.placements staged.1.2).perform machine staged.2 := by
        rw [shape]
        obtain ⟨⟨failed, ledger⟩, reached⟩ := staged
        cases ended
        rfl
      rw [goesOn]
      refine settle_staged staged.2 (ends ended) ?_ (by rw [sameMoved, isStart])
      rw [sameCreated, isStart]
      intro path member
      obtain ⟨taken, -, inside, rfl⟩ := (isMissing path).1 member
      exact ⟨taken, rfl, .inl inside⟩

/-- Without the staging directory, the tree has received the files of all shipments. -/
theorem receives
    {shipments : List Shipment}
    {created : List Path}
    (named : ∀ shipment ∈ shipments, delivery.Named shipment)
    (apart : shipments.Pairwise fun first second => first.name ≠ second.name)
    (notEmpty : shipments ≠ [])
    (residue : delivery.site.Residue created
      (shipments.map fun shipment =>
        delivery.site.path (delivery.file delivery.output shipment)) [] tree)
    (held : Held delivery.stored tree shipments)
    (bounds : delivery.Bounds shipments created) :
    Receives machine.directory old tree
      (shipments.map (Shipment.stored (delivery.site.path delivery.output) delivery.size)) := by
  have leads : ∀ shipment ∈ shipments,
      tree.resolve machine.directory
          (Shipment.stored (delivery.site.path delivery.output) delivery.size shipment).1 =
        .ok (delivery.stored shipment) := by
    intro shipment member
    have isNamed := named shipment member
    have found := held shipment member
    have usable := (residue.accounted _ _ found (free_file isNamed delivery.output)).usable rfl
    unfold Shipment.stored
    rw [place_eq_file isNamed delivery.output]
    exact residue.resolve_eq_place (fresh_stored isNamed) usable (contains_iff.2 ⟨_, found⟩)
  refine {
    kept := residue.within
    stored := ?_
    apart := ?_
    nothingElse := ?_ }
  · intro file member
    obtain ⟨shipment, isShipment, rfl⟩ := List.mem_map.1 member
    have found := held shipment isShipment
    refine ⟨delivery.stored shipment, leads shipment isShipment,
      free_file (named shipment isShipment) delivery.output, found, ?_⟩
    intro above upward apart
    unfold Delivery.stored at upward apart found
    rw [site_place_file] at upward apart found
    rcases List.suffix_cons_iff.1 upward with itself | further
    · exact absurd itself apart
    · exact residue.grounded.isDirectory_of_suffix (contains_iff.2 ⟨_, found⟩) further
  · rw [List.pairwise_map]
    refine apart.imp_of_mem ?_
    intro first second isFirst isSecond differ
    rw [leads first isFirst, leads second isSecond]
    exact fun same => place_file_ne_place_file _ differ (Except.ok.inj same)
  · intro location entry found before
    cases residue.accounted location entry found before with
    | created listed usable =>
        rename_i parts
        -- A directory that was made lies above some file.
        obtain ⟨shipment, member, inside⟩ : ∃ shipment ∈ shipments,
            parts <+: delivery.folder delivery.output shipment.corpusClass := by
          obtain ⟨taken, same, inside⟩ := bounds _ listed
          cases Site.path_injective same
          rcases inside with above | below
          · obtain ⟨shipment, rest, rfl⟩ := List.exists_cons_of_ne_nil notEmpty
            exact ⟨shipment, List.mem_cons_self, above.trans (List.prefix_append _ _)⟩
          · exact below
        refine ⟨_, List.mem_map_of_mem member, _, leads shipment member, ?_, fun _ => rfl⟩
        exact Site.place_suffix_iff.2 (inside.trans (List.prefix_append _ _))
    | moved listed usable =>
        obtain ⟨shipment, member, same⟩ := List.mem_map.1 listed
        cases Site.path_injective same
        exact ⟨_, List.mem_map_of_mem member, _, leads shipment member, List.suffix_refl _,
          fun apart => absurd rfl apart⟩
    | staging listed => cases listed
    | staged listed => cases listed

end Delivery

end GrammarCorpus
