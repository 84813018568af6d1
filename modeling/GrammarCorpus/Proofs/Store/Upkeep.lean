import GrammarCorpus.Proofs.Files.Upkeep
import GrammarCorpus.Proofs.Store.AllOrNothing

namespace GrammarCorpus

/-!
# Storing keeps workspaces tidy

Wherever storing a partition comes to its end, and whether it succeeds or not, no location
has got two entries, and no name in the tree is reserved for later: the new names it uses
have been given by then.
-/

open FileTree Work

variable {machine : Machine} {first later : Nat} {path : Path}

/-- No part of a path is reserved for a new name, from a number on. -/
def Path.Unreserved (machine : Machine) (first : Nat) (path : Path) : Prop :=
  ∀ part ∈ path.parts, ¬ machine.Reserves first part

namespace Path.Unreserved

/-- What is not reserved is not reserved later. -/
theorem of_le
    (unreserved : path.Unreserved machine first)
    (further : first ≤ later) :
    path.Unreserved machine later :=
  fun part member reserves => unreserved part member (reserves.of_le further)

/-- The path above. -/
theorem parent (unreserved : path.Unreserved machine first) :
    path.parent.Unreserved machine first :=
  fun part member => unreserved part (List.dropLast_subset _ member)

/-- A name that is spent may stand behind the path. -/
theorem child
    {name : String}
    (unreserved : path.Unreserved machine first)
    (isName : Path.IsName name)
    (spent : machine.Spent first name) :
    (path.child name).Unreserved machine first := by
  intro part member
  rw [Path.child_isName isName] at member
  rcases List.mem_append.1 member with before | itself
  · exact unreserved part before
  · exact List.mem_singleton.1 itself ▸ spent.notReserved

/-- The place of a file in a corpus. -/
theorem place
    {name : String}
    {size : Int}
    (apart : machine.NamesApart)
    (avoids : machine.Avoids size)
    (unreserved : path.Unreserved machine first)
    (corpusClass : CorpusClass)
    (isName : Path.IsName name)
    (spent : machine.Spent first name) :
    (Store.place path corpusClass size name).Unreserved machine first :=
  ((unreserved.child corpusClass.isName_text (apart.spent_class corpusClass)).child
    (Path.isName_toString size) avoids.spent).child isName spent

end Path.Unreserved

namespace Workspace.Tidy

/-- The names where a path leads are spent, if it can be handed over and is not reserved. -/
theorem spent_of_resolve
    {workspace : Workspace}
    {location : Location}
    (tidy : workspace.Tidy machine first)
    (unreserved : path.Unreserved machine first)
    (handed : FileWork.holdsNull path.text = false)
    (leads : workspace.tree.resolve machine.directory path = .ok location) :
    ∀ name ∈ location, machine.Spent workspace.named name := by
  intro name member
  rcases mem_of_resolve leads member with home | part
  · exact (tidy.home name home).of_le tidy.begun
  · refine ⟨?_, fun reserves => unreserved name part (reserves.of_le tidy.begun)⟩
    rw [Path.holdsNull_text, List.any_eq_false] at handed
    simpa using handed name part

/-- Where a directory does not stand, the root does not. -/
theorem ne_nil_of_isDirectory
    {tree : FileTree}
    {location : Location}
    (noDirectory : tree.isDirectory location = false) :
    location ≠ [] := by
  rintro rfl
  cases noDirectory

/-- Anything may be put where a path leads that is not reserved. -/
theorem admits (unreserved : path.Unreserved machine first) :
    Admits machine (Tidy machine first) path where
  ignores same named tidy := tidy.of_tree_eq same (Nat.le_of_eq named.symm)
  insert tidy handed leads noDirectory changed named :=
    tidy.insert (ne_nil_of_isDirectory noDirectory)
      (tidy.spent_of_resolve unreserved handed leads) changed named

/-- Looking whether a path leads to a directory changes nothing. -/
theorem unlessDirectory (failure : FileFailure) :
    KeepsOrFails machine (Tidy machine first) (fun _ => True)
      (FileWork.unlessDirectory path failure) := by
  refine .bind (.of_forall fun workspace before => ?_) fun isDirectory _ => ?_
  · rw [FileWork.perform_isDirectory]
    exact before
  · cases isDirectory
    · exact .throw failure
    · exact .pure trivial

/-- A directory is made, or it is there already. -/
theorem ensureDirectory (unreserved : path.Unreserved machine first) :
    KeepsOrFails machine (Tidy machine first) (fun _ => True)
      (FileWork.ensureDirectory path) := by
  refine .tryCatch (admits unreserved).makeDirectory fun failure => ?_
  split
  · exact .throw failure
  · exact unlessDirectory failure

/-- All that is missing on the way along a path is made. -/
theorem makeDirectoriesFrom
    (anchor : Anchor)
    (names : List String)
    (unreserved : ∀ name ∈ names, ¬ machine.Reserves first name) :
    KeepsOrFails machine (Tidy machine first) (fun _ => True)
      (FileWork.makeDirectoriesFrom anchor names) := by
  induction names with
  | nil =>
      have path : Path.Unreserved machine first ⟨anchor, []⟩ := fun part member => nomatch member
      exact ensureDirectory path
  | cons name outer inductionHypothesis =>
      have path : Path.Unreserved machine first ⟨anchor, (name :: outer).reverse⟩ :=
        fun part member => unreserved part (List.mem_reverse.1 member)
      refine .tryCatch (admits path).makeDirectory fun failure => ?_
      split
      · exact .bind (inductionHypothesis fun other member =>
          unreserved other (List.mem_cons_of_mem _ member)) fun _ _ => ensureDirectory path
      · exact unlessDirectory failure

/-- A file is written, together with the directories above it. -/
theorem writeBelow
    (unreserved : path.Unreserved machine first)
    (text : String) :
    KeepsOrFails machine (Tidy machine first) (fun _ => True) (Store.writeBelow path text) := by
  refine .bind (makeDirectoriesFrom _ _ ?_) fun _ _ => (admits unreserved).write text
  exact fun part member => unreserved.parent part (List.mem_reverse.1 member)

/-- A file is moved. -/
theorem move
    {target : Path}
    (unreserved : target.Unreserved machine first) :
    KeepsOrFails machine (Tidy machine first) (fun _ => True) (FileWork.move path target) := by
  refine .of_forall fun workspace before => ?_
  have named : ((FileWork.move path target).run.perform machine workspace).2.named =
      workspace.named := by
    refine Nameless.reporting (.faulty (fun origin => .bind ?_ fun place => ?_)
      fun _ _ => .pure _) machine workspace
    · exact fun machine workspace => by rw [perform_locate]
    · split
      · exact .pure _
      · exact .change _
  rcases FileWork.move_cases machine workspace path target with
    ⟨-, -, same⟩ | ⟨origin, location, content, done, -, leads, found, noDirectory, changed⟩
  · exact before.of_tree_eq same (Nat.le_of_eq named.symm)
  · have handed : FileWork.holdsNull target.text = false := by
      unfold FileWork.move at done
      rw [FileWork.perform_reporting] at done
      split at done
      · cases done
      · rename_i handed
        rw [Option.any_some, Bool.not_eq_true, Bool.or_eq_false_iff] at handed
        exact handed.2
    have below : origin ≠ [] := by
      rintro rfl
      cases found
    have erased : Tidy machine first { workspace with tree := workspace.tree.erase origin } :=
      before.erase below rfl rfl
    exact erased.insert (ne_nil_of_isDirectory noDirectory)
      (before.spent_of_resolve unreserved handed leads) changed named

/-- A file is moved, after the directories above its new place are made. -/
theorem moveBelow
    {target : Path}
    (unreserved : target.Unreserved machine first) :
    KeepsOrFails machine (Tidy machine first) (fun _ => True)
      (Store.moveBelow path target) := by
  refine .bind (makeDirectoriesFrom _ _ ?_) fun _ _ => move unreserved
  exact fun part member => unreserved.parent part (List.mem_reverse.1 member)

/-- What frees locations, if it does anything. -/
theorem change
    {act : FileTree → Except SystemError FileTree}
    (frees : ∀ tree after, act tree = .ok after →
      ∃ location, after = tree.prune location ∨ location ≠ [] ∧ after = tree.erase location) :
    Keeps machine (Tidy machine first) (fun _ => True) (Work.change act) := by
  refine .of_forall fun workspace before => ?_
  rw [perform_change]
  cases changed : act workspace.tree with
  | error cause => exact before
  | ok after =>
      obtain ⟨location, isPruned | ⟨below, isErased⟩⟩ := frees _ _ changed
      · exact before.prune isPruned rfl
      · exact before.erase below isErased rfl

/-- Where a path leads is only asked. -/
theorem locate : Keeps machine (Tidy machine first) (fun _ => True) (Work.locate path) :=
  .of_eq fun workspace => by rw [perform_locate]

/-- A directory is removed with all that is below it. -/
theorem removeTree :
    Keeps machine (Tidy machine first) (fun _ => True) (Work.removeTree path) := by
  refine .bind locate fun place _ => ?_
  cases place with
  | error cause => exact .pure trivial
  | ok location =>
      refine change fun tree after removed => ⟨location, .inl ?_⟩
      unfold FileTree.removeTree at removed
      split at removed
      · cases removed
      · cases removed
      · exact (Except.ok.inj removed).symm

/-- A directory is discarded with all that is below it. -/
theorem discardTree :
    Keeps machine (Tidy machine first) (fun _ => True) (Work.discardTree path) :=
  .bind removeTree fun _ _ => .pure trivial

/-- A file is discarded. -/
theorem discardFile :
    Keeps machine (Tidy machine first) (fun _ => True) (Work.discardFile path) := by
  refine .bind locate fun place _ => ?_
  cases place with
  | error cause => exact .pure trivial
  | ok location =>
      refine .bind (change fun tree after removed => ⟨location, .inr ?_⟩) fun _ _ => .pure trivial
      unfold FileTree.removeFile at removed
      split at removed
      · cases removed
      · rename_i content isFile
        refine ⟨?_, (Except.ok.inj removed).symm⟩
        rintro rfl
        cases isFile

/-- An empty directory is discarded. -/
theorem discardDirectory :
    Keeps machine (Tidy machine first) (fun _ => True) (Work.discardDirectory path) := by
  refine .bind locate fun place _ => ?_
  cases place with
  | error cause => exact .pure trivial
  | ok location =>
      refine .bind (change fun tree after removed => ⟨location, .inr ?_⟩) fun _ _ => .pure trivial
      unfold FileTree.removeDirectory at removed
      split at removed
      · cases removed
      · cases removed
      · split at removed
        · cases removed
        · rename_i below
          split at removed
          · exact ⟨below, (Except.ok.inj removed).symm⟩
          · cases removed

/-- Everything is taken back. -/
theorem rollBack (staging : Path) (ledger : Ledger) :
    Keeps machine (Tidy machine first) (fun _ => True) (Store.rollBack staging ledger) := by
  refine .bind (.forM fun _ _ => discardFile) fun _ _ => ?_
  exact .bind discardTree fun _ _ => .forM fun _ _ => discardDirectory

/-- The names that the machine gives are all that is reserved, so those given are free. -/
theorem current
    {workspace : Workspace}
    (tidy : workspace.Tidy machine first) :
    workspace.Tidy machine workspace.named :=
  { tidy with
    begun := Nat.le_refl _
    home := fun name member => (tidy.home name member).of_le tidy.begun }

/-- The next name is given. -/
theorem next
    {workspace : Workspace}
    (tidy : workspace.Tidy machine first) :
    Tidy machine (workspace.named + 1) { workspace with named := workspace.named + 1 } where
  distinct := tidy.distinct
  begun := Nat.le_refl _
  home name member := (tidy.home name member).of_le (Nat.le_succ_of_le tidy.begun)
  spent location holds name member := (tidy.spent location holds name member).of_le (Nat.le_succ _)

/-- Staging gives a new name to each file, and the files are stored under these names. -/
theorem stage
    {output staging : Path}
    {size : Int}
    (apart : machine.NamesApart)
    (avoids : machine.Avoids size)
    (items : List (CorpusClass × Classified))
    {ledger : Ledger}
    {workspace : Workspace}
    (tidy : workspace.Tidy machine first)
    (outputUnreserved : output.Unreserved machine first)
    (stagingUnreserved : staging.Unreserved machine first)
    (stored : ∀ placement ∈ ledger.placements,
      placement.stored.Unreserved machine workspace.named) :
    let after := (Store.stage output staging size items ledger).perform machine workspace
    after.2.Tidy machine first ∧
      ∀ placement ∈ after.1.2.placements,
        placement.stored.Unreserved machine after.2.named := by
  induction items generalizing first ledger workspace with
  | nil => exact ⟨tidy, stored⟩
  | cons item rest inductionHypothesis =>
      obtain ⟨corpusClass, classified⟩ := item
      intro after
      have shape : after = _ :=
        Store.perform_stage_cons output staging size corpusClass classified rest ledger
      have further : first ≤ workspace.named + 1 := Nat.le_succ_of_le tidy.begun
      have isName := apart.isName workspace.named
      have spent := apart.spent_names workspace.named
      have path := (stagingUnreserved.of_le further).place apart avoids corpusClass isName spent
      obtain ⟨tidyThen, -⟩ := writeBelow path classified.text _ tidy.next
      generalize isWritten : (Store.writeBelow (Store.place staging corpusClass size
        (machine.names workspace.named)) classified.text).run.perform machine
          { workspace with named := workspace.named + 1 } = written at shape tidyThen
      have storedThen : ∀ placement ∈ ledger.placements,
          placement.stored.Unreserved machine written.2.named :=
        fun placement member => (stored placement member).of_le
          (Nat.le_of_succ_le tidyThen.begun)
      cases ended : written.1 with
      | error failure =>
          simp only [ended] at shape
          rw [shape]
          exact ⟨tidyThen.of_le tidy further, storedThen⟩
      | ok value =>
          simp only [ended] at shape
          rw [shape]
          refine And.imp (fun tidyEnd => tidyEnd.of_le tidy further) id
            (inductionHypothesis tidyThen (outputUnreserved.of_le further)
              (stagingUnreserved.of_le further) ?_)
          intro placement member
          rcases List.mem_append.1 member with before | itself
          · exact storedThen placement before
          · rw [List.mem_singleton.1 itself]
            exact ((outputUnreserved.of_le further).place apart avoids corpusClass isName
              spent).of_le tidyThen.begun

/-- Staged files are moved. -/
theorem settle
    (placements : List Placement)
    (ledger : Ledger)
    (stored : ∀ placement ∈ placements, placement.stored.Unreserved machine first) :
    Keeps machine (Tidy machine first) (fun _ => True) (Store.settle placements ledger) := by
  induction placements generalizing ledger with
  | nil => exact .pure trivial
  | cons placement rest inductionHypothesis =>
      refine KeepsOrFails.run_bind (.of_forall fun workspace before => ?_)
        (fun failure => .pure trivial) fun missing _ => ?_
      · rw [show ((FileWork.missing placement.stored.parent).run.perform machine workspace).2 =
          workspace from FileWork.perform_missingFrom_snd _ _]
        exact before
      · refine KeepsOrFails.run_bind (moveBelow (stored placement List.mem_cons_self))
          (fun failure => .pure trivial) fun _ _ => ?_
        exact inductionHypothesis _ fun other member =>
          stored other (List.mem_cons_of_mem _ member)

/-- An attempt to store a partition, from the name of its staging directory on. -/
theorem attempt
    {workspace : Workspace}
    {output : Path}
    {partition : Partition}
    (apart : machine.NamesApart)
    (avoids : machine.Avoids partition.size)
    (tidy : workspace.Tidy machine first)
    (unreserved : output.Unreserved machine first)
    (created : List Path) :
    (Store.attempt machine workspace partition output created).2.Tidy machine first := by
  have further : first ≤ workspace.named + 1 := Nat.le_succ_of_le tidy.begun
  have outputUnreserved := unreserved.of_le further
  have stagingUnreserved := outputUnreserved.child
    (Delivery.isName_staging (apart.isName workspace.named)) (apart.spent_staging workspace.named)
  obtain ⟨start, isStart⟩ : ∃ start : Ledger, start =
    { current := output, placements := [], moved := [], created } := ⟨_, rfl⟩
  have staged : ∀ placement ∈ start.placements,
      placement.stored.Unreserved machine (workspace.named + 1) := by
    rw [isStart]
    exact nofun
  obtain ⟨tidyStaged, stored⟩ := stage apart avoids partition.contents tidy.next
    outputUnreserved stagingUnreserved staged
  unfold Store.attempt Store.stageAndSettle
  simp only [← isStart]
  rw [perform_bind]
  unfold Store.stagingOf
  generalize (Store.stage output (output.child (".staging-" ++ machine.names workspace.named))
    partition.size partition.contents start).perform machine
      { workspace with named := workspace.named + 1 } = reached at tidyStaged stored ⊢
  obtain ⟨⟨failed, ledger⟩, after⟩ := reached
  cases failed with
  | some failure => exact tidyStaged.of_le tidy further
  | none =>
      obtain ⟨tidySettled, -⟩ := settle ledger.placements ledger stored after tidyStaged.current
      exact tidySettled.of_le tidy (Nat.le_trans further tidyStaged.begun)

/-- Nothing is done but a step that keeps workspaces tidy, and its failure is reported. -/
theorem reporting
    {handed : String}
    {target : Option String}
    {step : Work (Option SystemError)}
    (keeps : Keeps machine (Tidy machine first) (fun _ => True) step) :
    KeepsOrFails machine (Tidy machine first) (fun _ => True)
      (FileWork.reporting handed target step) := by
  refine .of_forall fun workspace before => ?_
  rw [FileWork.perform_reporting]
  split
  · exact before
  · exact (keeps workspace before).1

/-- The next call of the file system is counted. -/
theorem nextFault : Keeps machine (Tidy machine first) (fun _ => True) Work.nextFault :=
  .of_forall fun _ before => before.of_tree_eq rfl (Nat.le_refl _)

/-- A directory is removed with all that is below it, unless that fails. -/
theorem removeWhole (path : Path) :
    KeepsOrFails machine (Tidy machine first) (fun _ => True) (FileWork.removeTree path) := by
  refine reporting (.bind nextFault fun fault _ => ?_)
  cases fault with
  | some fault => exact .pure trivial
  | none => exact removeTree

/-- Storing a partition keeps a workspace tidy, however it ends. -/
theorem persist
    {output : Path}
    {partition : Partition}
    (apart : machine.NamesApart)
    (avoids : machine.Avoids partition.size)
    (unreserved : output.Unreserved machine first) :
    KeepsOrFails machine (Tidy machine first) (fun _ => True)
      (Store.persist partition output) := by
  refine .of_forall fun workspace tidy => ?_
  cases found : ((FileWork.missing output).run.perform machine workspace).1 with
  | error failure =>
      rw [Store.perform_persist_of_error found]
      exact tidy
  | ok created =>
      have tidyTried := tidy.attempt apart avoids unreserved created
      generalize performed : Store.attempt machine workspace partition output created = tried
        at tidyTried
      cases ended : tried.1.1 with
      | some failure =>
          obtain ⟨tidyTaken, -⟩ :=
            rollBack (Store.stagingOf machine workspace output) tried.1.2 tried.2 tidyTried
          rw [Store.perform_persist_of_failure found performed ended]
          dsimp only
          exact tidyTaken
      | none =>
          rw [Store.perform_persist_of_none found performed rfl ended]
          cases tried.2.tree.lookAt machine.directory
              (Store.stagingOf machine workspace output) with
          | error failure => exact tidyTried
          | ok entry =>
              cases entry with
              | none => exact tidyTried
              | some entry =>
                  obtain ⟨tidyRemoved, -⟩ :=
                    removeWhole (Store.stagingOf machine workspace output) tried.2 tidyTried
                  dsimp only
                  exact tidyRemoved

end Workspace.Tidy

end GrammarCorpus
