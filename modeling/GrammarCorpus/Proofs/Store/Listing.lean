import GrammarCorpus.Proofs.Store.Outcome

namespace GrammarCorpus

/-!
# What is told of a partition that was stored

Storing a partition ends with a list of paths for each class. Nothing is remembered of the
class that a path belongs to: it is read from the path, as the name of the directory two
above the file. This is the directory of the class, so each list has the files of its class
and of no other, in the order of the grammars.
-/

open FileTree

namespace Partition

/-- The grammars of a class are what is to be stored for it. -/
theorem map_contents_filter (partition : Partition) (corpusClass : CorpusClass) :
    (partition.contents.filter fun item => item.1 = corpusClass).map Prod.snd =
      partition.members corpusClass := by
  cases corpusClass <;>
    simp [contents, CorpusClass.all, List.filter_map, Function.comp_def]

end Partition

namespace Shipment

/-- The shipments of a class have the texts of its grammars. -/
theorem map_filter_all
    (names : Nat → String)
    (number : Nat)
    (partition : Partition)
    (corpusClass : CorpusClass) :
    ((all names number partition.contents).filter fun shipment =>
        shipment.corpusClass = corpusClass).map Shipment.text =
      (partition.members corpusClass).map Classified.text := by
  have same := congrArg
    (fun items => (items.filter fun item : CorpusClass × String => item.1 = corpusClass).map
      Prod.snd)
    (map_all names number partition.contents)
  simp only [List.filter_map, List.map_map, Function.comp_def] at same
  rw [same, ← partition.map_contents_filter, List.map_map]
  rfl

end Shipment

namespace Store

variable {machine : Machine} {workspace : Workspace} {output staging : Path}
variable {partition : Partition} {size : Int} {placements : List Placement}

/-- The class of a stored file is the name of the directory two above it. -/
theorem name_place
    {name : String}
    (isName : Path.IsName name)
    (corpusClass : CorpusClass) :
    (place output corpusClass size name).parent.parent.name = corpusClass.text := by
  rw [place_eq isName]
  simp [Path.parent, Path.name]

/-- The lists that have each placement under its class. -/
def listed (placements : List Placement) : List (String × List Path) :=
  CorpusClass.all.map fun corpusClass =>
    (corpusClass.text,
      (placements.filter fun placement => placement.corpusClass = corpusClass).map
        Placement.stored)

/-- A path that is added under the name of its class is in the list of this class. -/
theorem addUnder_listed (earlier : List Placement) (placement : Placement) :
    addUnder placement.corpusClass.text placement.stored (listed earlier) =
      listed (earlier ++ [placement]) := by
  unfold addUnder listed
  rw [List.map_map]
  refine List.map_congr_left fun corpusClass _ => ?_
  by_cases isClass : placement.corpusClass = corpusClass
  · subst isClass
    simp
  · have other : corpusClass.text ≠ placement.corpusClass.text :=
      fun same => isClass (CorpusClass.text_injective same).symm
    simp [isClass, other]

/-- The lists have each placement under its class, if the paths tell the classes. -/
theorem byClass_eq_listed
    (told : ∀ placement ∈ placements,
      placement.stored.parent.parent.name = placement.corpusClass.text) :
    byClass placements = listed placements := by
  suffices ∀ earlier : List Placement,
      placements.foldl
          (fun lists placement =>
            addUnder placement.stored.parent.parent.name placement.stored lists)
          (listed earlier) =
        listed (earlier ++ placements) from this []
  induction placements with
  | nil => simp
  | cons placement rest inductionHypothesis =>
      intro earlier
      obtain ⟨toldFirst, toldRest⟩ := List.forall_mem_cons.1 told
      rw [List.foldl_cons, toldFirst, addUnder_listed, inductionHypothesis toldRest,
        List.append_assoc, List.singleton_append]

/-- The lists of shipments have the files of each class in order. -/
theorem byClass_placements
    {shipments : List Shipment}
    (isName : ∀ shipment ∈ shipments, Path.IsName shipment.name) :
    byClass (shipments.map (Shipment.placement output staging size)) =
      CorpusClass.all.map fun corpusClass =>
        (corpusClass.text,
          ((shipments.filter fun shipment => shipment.corpusClass = corpusClass).map
            (Shipment.stored output size)).map Prod.fst) := by
  rw [byClass_eq_listed]
  · unfold listed
    simp only [List.filter_map, List.map_map, Function.comp_def]
    rfl
  · intro placement member
    obtain ⟨shipment, isShipment, rfl⟩ := List.mem_map.1 member
    exact name_place (isName shipment isShipment) shipment.corpusClass

/-- Behind a delivery that ends well, the placements are those of its shipments. -/
theorem placements_of_persist
    {created : List Path}
    {delivery : Delivery machine workspace.tree}
    (serves : delivery.Serves partition output created)
    (found : ((FileWork.missing output).run.perform machine workspace).1 = .ok created)
    (done : ((persist partition output).run.perform machine workspace).1 = .ok placements) :
    placements =
      (Shipment.all machine.names (workspace.named + 1) partition.contents).map
        (Shipment.placement output (stagingOf machine workspace output) partition.size) := by
  generalize performed : attempt machine workspace partition output created = tried
  cases ended : tried.1.1 with
  | some failure =>
      rw [perform_persist_of_failure found performed ended] at done
      cases done
  | none =>
      obtain ⟨-, ends⟩ := attempt_tracked serves performed
      obtain ⟨placed, -⟩ := ends ended
      have shape := perform_persist_of_none found performed rfl ended
      have same : placements = tried.1.2.placements := by
        rw [shape] at done
        split at done
        · cases done
        · exact (Except.ok.inj done).symm
        · generalize ((FileWork.removeTree (stagingOf machine workspace output)).run.perform
            machine tried.2).1 = removed at done
          cases removed with
          | error failure => cases done
          | ok _ => exact (Except.ok.inj done).symm
      rw [same, placed, serves.first_eq]
      unfold Delivery.placement
      rw [serves.output_eq, serves.root_eq, serves.size_eq]

/-- If storing a partition succeeds, its shipments are placed, and their files received. -/
theorem persist_gives
    {first : Nat}
    (apart : machine.NamesApart)
    (tidy : workspace.Tidy machine first)
    (grounded : workspace.tree.Grounded)
    (home : workspace.tree.isDirectory machine.directory = true)
    (straight : workspace.tree.Straight machine.directory output)
    (done : ((persist partition output).run.perform machine workspace).1 = .ok placements) :
    let after := ((persist partition output).run.perform machine workspace).2
    let shipments := Shipment.all machine.names (workspace.named + 1) partition.contents
    placements = shipments.map
        (Shipment.placement output (stagingOf machine workspace output) partition.size) ∧
      Receives machine.directory workspace.tree after.tree
        (shipments.map (Shipment.stored output partition.size)) := by
  intro after shipments
  refine ⟨?_, ?_⟩
  · cases found : ((FileWork.missing output).run.perform machine workspace).1 with
    | error failure =>
        rw [perform_persist_of_error found] at done
        cases done
    | ok created =>
        obtain ⟨delivery, serves⟩ := Delivery.exists_of_missing grounded tidy.nameable home
          (tidy.newNames apart) straight found partition
        exact placements_of_persist serves found done
  · rcases persist_cases apart tidy grounded home straight with
      ⟨failure, failed, -⟩ | ⟨-, ⟨-, cause, place, failed, -⟩ | ⟨_, -, receives⟩⟩
    · cases failed.symm.trans done
    · cases failed.symm.trans done
    · exact receives

/-- What is told of a partition is read from its placements. -/
theorem perform_persistByClass (partition : Partition) (output : Path) :
    (persistByClass partition output).run.perform machine workspace =
      (((persist partition output).run.perform machine workspace).1.map byClass,
        ((persist partition output).run.perform machine workspace).2) := by
  unfold persistByClass
  rw [Work.perform_run_bind]
  generalize (persist partition output).run.perform machine workspace = result
  obtain ⟨_ | _, _⟩ := result <;> rfl

/--
Storing a partition tells, for each class, the paths of as many files as there are grammars
in it. At each path there is the text of the grammar now.
-/
theorem persistByClass_lists
    {first : Nat}
    {lists : List (String × List Path)}
    (apart : machine.NamesApart)
    (tidy : workspace.Tidy machine first)
    (grounded : workspace.tree.Grounded)
    (home : workspace.tree.isDirectory machine.directory = true)
    (straight : workspace.tree.Straight machine.directory output)
    (given : ((persistByClass partition output).run.perform machine workspace).1 = .ok lists) :
    let after := ((persistByClass partition output).run.perform machine workspace).2.tree
    ∃ files : CorpusClass → List (Path × String),
      lists = (CorpusClass.all.map fun corpusClass =>
          (corpusClass.text, (files corpusClass).map Prod.fst)) ∧
        ∀ corpusClass,
          (files corpusClass).map Prod.snd =
              (partition.members corpusClass).map Classified.text ∧
            ∀ file ∈ files corpusClass, ∃ location,
              after.resolve machine.directory file.1 = .ok location ∧
                after.find? location = some (.file file.2.toUTF8) := by
  intro after
  let shipments := Shipment.all machine.names (workspace.named + 1) partition.contents
  rw [perform_persistByClass] at given
  have isAfter : after = _ := congrArg (·.2.tree) (perform_persistByClass partition output)
  cases done : ((persist partition output).run.perform machine workspace).1 with
  | error failure =>
      rw [done] at given
      cases given
  | ok placements =>
      rw [done] at given
      obtain rfl := Except.ok.inj given
      obtain ⟨placed, received⟩ := persist_gives apart tidy grounded home straight done
      rw [← isAfter] at received
      have isName : ∀ shipment ∈ shipments, Path.IsName shipment.name := by
        intro shipment member
        obtain ⟨later, -, named⟩ := Shipment.exists_number_of_mem_all member
        exact named ▸ apart.isName later
      refine ⟨fun corpusClass => (shipments.filter fun shipment =>
        shipment.corpusClass = corpusClass).map (Shipment.stored output partition.size),
        ?_, fun corpusClass => ⟨?_, ?_⟩⟩
      · rw [placed]
        exact byClass_placements isName
      · rw [List.map_map]
        exact Shipment.map_filter_all machine.names _ partition corpusClass
      · intro file member
        have isFile := (List.filter_sublist.map _).subset member
        obtain ⟨location, leads, -, stored, -⟩ := received.stored file isFile
        exact ⟨location, leads, stored⟩

example :
    ((persistByClass (.single 4 "S: ;") ⟨.relative, ["out"]⟩).run.perform .calm
        { tree := .empty }).1.toOption =
      some [("lr1", [⟨.relative, ["out", "lr1", "4", "xx"]⟩]), ("lr_k", []), ("disputed", [])] := by
  decide +kernel

end Store

end GrammarCorpus
