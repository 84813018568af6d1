import GrammarCorpus.Proofs.Store.Upkeep

namespace GrammarCorpus

/-!
# What storing a partition comes to

In a tidy workspace, storing a partition fails and leaves the tree as it was, or it
succeeds and the tree has received the files. The one exception is a staging directory
that cannot be cleared away, which its failure tells. What several partitions leave, one
after the other, is received together.
-/

open FileTree

namespace FileTree.Same

variable {before after : FileTree} {location : Location}

/-- The same tree holds the same. -/
theorem within (same : before.Same after) : before.Within after :=
  fun location _ found => (same location).trans found

/-- The same places are directories. -/
theorem isDirectory_eq (same : before.Same after) (location : Location) :
    after.isDirectory location = before.isDirectory location := by
  unfold FileTree.isDirectory
  rw [same location]

/-- The same is grounded. -/
theorem grounded (same : before.Same after) (grounded : before.Grounded) : after.Grounded := by
  intro name parent holds
  rw [same.isDirectory_eq]
  refine grounded name parent ?_
  unfold FileTree.contains at holds ⊢
  rwa [same] at holds

end FileTree.Same

namespace Receives

variable {directory : Location} {before between after : FileTree}
variable {files first second : List (Path × String)}

/-- A tree that is the same has received nothing. -/
theorem of_same (same : before.Same after) : Receives directory before after [] where
  kept := same.within
  stored := nofun
  apart := .nil
  nothingElse location entry found free := by
    rw [same location, free] at found
    cases found

/-- What is received in two steps is received in all. -/
theorem trans
    (receivesFirst : Receives directory before between first)
    (receivesSecond : Receives directory between after second) :
    Receives directory before after (first ++ second) where
  kept location entry found :=
    receivesSecond.kept location entry (receivesFirst.kept location entry found)
  stored file member := by
    rcases List.mem_append.1 member with isFirst | isSecond
    · obtain ⟨location, leads, free, found, above⟩ := receivesFirst.stored file isFirst
      exact ⟨location, receivesSecond.kept.resolve leads, free,
        receivesSecond.kept location _ found,
        fun place upward apart => receivesSecond.kept.isDirectory (above place upward apart)⟩
    · obtain ⟨location, leads, free, found, above⟩ := receivesSecond.stored file isSecond
      exact ⟨location, leads, receivesFirst.kept.free free, found, above⟩
  apart := by
    refine List.pairwise_append.2 ⟨?_, receivesSecond.apart, ?_⟩
    · refine receivesFirst.apart.imp_of_mem ?_
      intro file other isFile isOther differ same
      obtain ⟨location, leads, -⟩ := receivesFirst.stored file isFile
      obtain ⟨place, leadsOther, -⟩ := receivesFirst.stored other isOther
      rw [receivesSecond.kept.resolve leads, receivesSecond.kept.resolve leadsOther] at same
      rw [leads, leadsOther] at differ
      exact differ same
    · intro file isFile other isOther same
      obtain ⟨location, leads, -, found, -⟩ := receivesFirst.stored file isFile
      obtain ⟨place, leadsOther, free, -⟩ := receivesSecond.stored other isOther
      rw [receivesSecond.kept.resolve leads, leadsOther] at same
      cases same
      cases free.symm.trans found
  nothingElse location entry found free := by
    cases holds : between.find? location with
    | none =>
        obtain ⟨file, member, rest⟩ := receivesSecond.nothingElse location entry found holds
        exact ⟨file, List.mem_append_right _ member, rest⟩
    | some other =>
        obtain ⟨file, member, place, leads, below, onTheWay⟩ :=
          receivesFirst.nothingElse location other holds free
        cases found.symm.trans (receivesSecond.kept location other holds)
        exact ⟨file, List.mem_append_left _ member, place, receivesSecond.kept.resolve leads,
          below, onTheWay⟩

/-- What is received stands in directories. -/
theorem grounded
    (receives : Receives directory before after files)
    (groundedBefore : before.Grounded) :
    after.Grounded := by
  intro name parent holds
  obtain ⟨entry, found⟩ := contains_iff.1 holds
  cases held : before.find? (name :: parent) with
  | some other =>
      exact receives.kept.isDirectory (groundedBefore name parent (contains_iff.2 ⟨_, held⟩))
  | none =>
      obtain ⟨file, member, place, leads, below, -⟩ :=
        receives.nothingElse _ entry found held
      obtain ⟨location, leadsTo, -, -, above⟩ := receives.stored file member
      cases leads.symm.trans leadsTo
      refine above parent ((List.suffix_cons name parent).trans below) ?_
      intro whole
      have lengths := below.length_le
      rw [← whole, List.length_cons] at lengths
      exact Nat.not_succ_le_self _ lengths

/-- What does not stand above a file that was received is as it was. -/
theorem find?_eq
    {location : Location}
    (receives : Receives directory before after files)
    (aside : ∀ file ∈ files, ∀ place,
      after.resolve directory file.1 = .ok place → ¬ location <:+ place) :
    after.find? location = before.find? location := by
  cases held : before.find? location with
  | some entry => exact receives.kept location entry held
  | none =>
      cases found : after.find? location with
      | none => rfl
      | some entry =>
          obtain ⟨file, member, place, leads, below, -⟩ :=
            receives.nothingElse location entry found held
          exact absurd below (aside file member place leads)

end Receives

namespace FileTree

variable {directory location : Location} {before after : FileTree} {path : Path}

/-- A way that is blocked by a file, or by a name that is too long, stays so. -/
theorem Within.walk_error
    {parts : List String}
    {cause : SystemError}
    (within : before.Within after)
    (fails : before.walk location parts = .error cause)
    (blocked : cause ≠ .notFound) :
    after.walk location parts = .error cause := by
  induction parts generalizing location with
  | nil => cases fails
  | cons part parts inductionHypothesis =>
      simp only [FileTree.walk] at fails ⊢
      cases found : before.find? location with
      | none =>
          simp only [enter, found, Except.error.injEq] at fails
          exact absurd fails.symm blocked
      | some entry =>
          have same : after.enter location part = before.enter location part := by
            simp only [enter, found, within location entry found]
          rw [same]
          cases entered : before.enter location part with
          | error other =>
              rw [entered] at fails
              exact fails
          | ok next =>
              rw [entered] at fails
              exact inductionHypothesis fails

/-- A path that does not turn back from a missing place does not do so later. -/
theorem Within.straight
    (within : before.Within after)
    (straight : before.Straight directory path) :
    after.Straight directory path := by
  intro beginning rest whole missing
  refine straight beginning rest whole ?_
  unfold IsMissing at missing ⊢
  simp only at missing ⊢
  cases ends : before.walk (if path.anchor = .relative then directory else []) beginning with
  | ok place =>
      rw [within.walk ends] at missing
      exact within.free missing
  | error cause =>
      rintro rfl
      rw [within.walk_error ends (by decide)] at missing
      exact missing rfl

end FileTree

namespace Workspace.Tidy

variable {machine : Machine} {first : Nat} {workspace : Workspace}

/-- The names that a machine gives are new in a tidy workspace. -/
theorem newNames
    (apart : machine.NamesApart)
    (tidy : workspace.Tidy machine first) :
    machine.NewNames workspace.tree workspace.named where
  isName number _ := apart.isName number
  distinct number later _ := apart.distinct number later
  unused number location begun member := by
    rw [← contains_eq_false_iff, ← Bool.not_eq_true]
    intro holds
    rcases member with isNamed | isStaging
    · exact (tidy.spent location holds _ isNamed).notReserved ⟨number, begun, .inl rfl⟩
    · exact (tidy.spent location holds _ isStaging).notReserved
        ⟨number, begun, .inr (.inl rfl)⟩

/-- The names in a tidy workspace can be handed over. -/
theorem nameable (tidy : workspace.Tidy machine first) : workspace.tree.Nameable :=
  fun location holds name member => (tidy.spent location holds name member).noNull

end Workspace.Tidy

namespace Partition

/-- The files of a partition in a corpus, named from a number on. -/
def files
    (partition : Partition)
    (output : Path)
    (names : Nat → String)
    (number : Nat) :
    List (Path × String) :=
  (Shipment.all names number partition.contents).map (Shipment.stored output partition.size)

end Partition

/-- No call of the file system fails by a fault. -/
def Machine.Faultless (machine : Machine) : Prop :=
  ∀ call, machine.faults call = none

namespace FileWork

/-- A directory that stands is removed, unless a fault comes first; then it stays as it is. -/
theorem removeTree_cases
    {machine : Machine}
    {workspace : Workspace}
    {path : Path}
    {location : Location}
    (handed : holdsNull path.text = false)
    (leads : workspace.tree.resolve machine.directory path = .ok location)
    (isDirectory : workspace.tree.isDirectory location = true) :
    let after := (FileWork.removeTree path).run.perform machine workspace
    (¬ machine.Faultless ∧
      ∃ error, after.1 = .error (.failed error) ∧ after.2.tree = workspace.tree) ∨
      after.1 = .ok () ∧ after.2.tree = workspace.tree.prune location := by
  intro after
  cases meets : machine.faults workspace.calls with
  | none =>
      have shape : after = _ := perform_removeTree handed leads isDirectory meets
      rw [shape]
      exact .inr ⟨rfl, rfl⟩
  | some fault =>
      have shape : after = _ := perform_reporting path.text none _
      simp only [handed, Option.any_none, Bool.or_false, Bool.false_eq_true, if_false,
        Work.nextFault, Work.perform_bind, Work.perform_read, Work.perform_modifyGet, meets,
        Work.perform_pure] at shape
      rw [shape]
      exact .inl ⟨fun faultless => (Option.some_ne_none fault) (meets.symm.trans (faultless _)),
        _, rfl, rfl⟩

end FileWork

namespace Store

variable {machine : Machine} {workspace : Workspace} {output : Path} {partition : Partition}
variable {created : List Path} {delivery : Delivery machine workspace.tree}

/--
If the staging directory cannot be cleared away, the failure tells, and it is all that is
there beside the files of the partition.
-/
theorem persist_of_fault
    {tried : (Option FileFailure × Ledger) × Workspace}
    {fault : Fault}
    (serves : delivery.Serves partition output created)
    (found : ((FileWork.missing output).run.perform machine workspace).1 = .ok created)
    (performed : attempt machine workspace partition output created = tried)
    (ends : tried.1.1 = none)
    (notEmpty : partition.contents ≠ [])
    (meets : machine.faults tried.2.calls = some fault) :
    let result := (persist partition output).run.perform machine workspace
    let staging := stagingOf machine workspace output
    ∃ cause location,
      result.1 = .error (.batch staging.text cause) ∧
        result.2.tree.resolve machine.directory staging = .ok location ∧
        Receives machine.directory workspace.tree (result.2.tree.prune location)
          (partition.files output machine.names (workspace.named + 1)) := by
  intro result staging
  obtain ⟨-, ended⟩ := attempt_tracked serves performed
  obtain ⟨-, settled, -⟩ := ended ends
  obtain ⟨handed, leads, isDirectory⟩ := attempt_leads serves performed ends notEmpty
  have receives := settled.receives notEmpty
  rw [serves.first_eq, serves.output_eq, serves.size_eq] at receives
  have seen := lookAt_of_resolve handed leads
  rw [isDirectory_iff.1 isDirectory] at seen
  have shape : result = _ := perform_persist_of_none found performed serves.root_eq.symm ends
  rw [seen] at shape
  unfold FileWork.removeTree at shape
  rw [FileWork.perform_reporting, handed] at shape
  simp only [Option.any_none, Bool.or_false, Bool.false_eq_true, if_false, Work.nextFault,
    Work.perform_bind, Work.perform_read, Work.perform_modifyGet, meets, Work.perform_pure]
    at shape
  rw [shape, show staging = _ from serves.root_eq.symm]
  exact ⟨_, _, rfl, leads, receives⟩

/-- If something is stored, the output path can be handed over. -/
theorem output_handed
    {tried : (Option FileFailure × Ledger) × Workspace}
    (apart : machine.NamesApart)
    (serves : delivery.Serves partition output created)
    (performed : attempt machine workspace partition output created = tried)
    (ends : tried.1.1 = none)
    (notEmpty : partition.contents ≠ []) :
    ∀ part ∈ output.parts, FileWork.holdsNull part = false := by
  intro part member
  obtain ⟨handed, -⟩ := attempt_leads serves performed ends notEmpty
  rw [serves.root_eq, Path.holdsNull_text, List.any_eq_false] at handed
  rw [← Bool.not_eq_true]
  refine handed part ?_
  unfold stagingOf
  rw [Path.child_isName (Delivery.isName_staging (apart.isName _))]
  exact List.mem_append_left _ member

/--
Storing a partition fails and leaves the tree as it was, or its staging directory cannot
be cleared away, or that is done as well. Then the tree has received the files of the
partition, in the second case beside the staging directory.
-/
theorem persist_cases
    {first : Nat}
    (apart : machine.NamesApart)
    (tidy : workspace.Tidy machine first)
    (grounded : workspace.tree.Grounded)
    (home : workspace.tree.isDirectory machine.directory = true)
    (straight : workspace.tree.Straight machine.directory output) :
    let result := (persist partition output).run.perform machine workspace
    let staging := stagingOf machine workspace output
    (∃ failure, result.1 = .error failure ∧ workspace.tree.Same result.2.tree) ∨
      (partition.contents ≠ [] → ∀ part ∈ output.parts, FileWork.holdsNull part = false) ∧
        ((¬ machine.Faultless ∧
          ∃ cause location,
            result.1 = .error (.batch staging.text cause) ∧
              result.2.tree.resolve machine.directory staging = .ok location ∧
              Receives machine.directory workspace.tree (result.2.tree.prune location)
                (partition.files output machine.names (workspace.named + 1))) ∨
          ∃ placements, result.1 = .ok placements ∧
            Receives machine.directory workspace.tree result.2.tree
              (partition.files output machine.names (workspace.named + 1))) := by
  intro result staging
  cases found : ((FileWork.missing output).run.perform machine workspace).1 with
  | error failure =>
      have shape : result = _ := perform_persist_of_error found
      exact .inl ⟨_, congrArg Prod.fst shape, by rw [shape]; exact fun _ => rfl⟩
  | ok created =>
      obtain ⟨delivery, serves⟩ := Delivery.exists_of_missing grounded tidy.nameable home
        (tidy.newNames apart) straight found partition
      generalize performed : attempt machine workspace partition output created = tried
      cases ended : tried.1.1 with
      | some failure =>
          have shape : result = _ := perform_persist_of_failure found performed ended
          obtain ⟨tracked, -⟩ := attempt_tracked serves performed
          refine .inl ⟨_, congrArg Prod.fst shape, ?_⟩
          rw [shape, ← serves.root_eq]
          exact tracked.rollBack rfl
      | none =>
          by_cases empty : partition.contents = []
          · obtain ⟨unchanged, -⟩ := persist_of_empty serves found empty
            have same : workspace.tree.Same result.2.tree := by
              rw [show result.2.tree = _ from unchanged]
              exact fun _ => rfl
            cases ends : result.1 with
            | error failure => exact .inl ⟨failure, rfl, same⟩
            | ok placements =>
                refine .inr ⟨fun some => absurd empty some, .inr ⟨placements, rfl, ?_⟩⟩
                unfold Partition.files
                rw [empty]
                exact .of_same same
          · refine .inr ⟨output_handed apart serves performed ended, ?_⟩
            cases meets : machine.faults tried.2.calls with
            | some fault =>
                refine .inl ⟨fun faultless => ?_,
                  persist_of_fault serves found performed ended empty meets⟩
                exact Option.some_ne_none fault (meets.symm.trans (faultless _))
            | none => exact .inr ⟨_, persist_of_none serves found performed ended empty meets⟩

end Store

namespace Machine

/-- The names of a machine on which nothing goes wrong are rows of one letter. -/
theorem calm_letter
    {number : Nat}
    {character : Char}
    (member : character ∈ (calm.names number).toList) :
    character = 'x' := by
  simpa [calm] using member

/-- None of these rows is empty. -/
theorem calm_head (number : Nat) : (calm.names number).toList.head? = some 'x' := by
  simp [calm, List.replicate_succ]

/-- They are told apart from each other and from what stands beside them. -/
theorem calm_namesApart : calm.NamesApart where
  isName number := (calm_newNames 0).isName number (Nat.zero_le _)
  distinct number later := (calm_newNames 0).distinct number later (Nat.zero_le _)
  noPoint number member := absurd (calm_letter member) (by decide)
  noHyphen number member := absurd (calm_letter member) (by decide)
  notClass number corpusClass same := by
    have head := calm_head number
    rw [same] at head
    cases corpusClass <;> exact absurd head (by decide)

/-- None of these rows is a numeral. -/
theorem calm_avoids (value : Int) : calm.Avoids value := by
  intro number same
  have letter : 'x' ∈ (toString value).toList := by simp [← same, calm]
  exact absurd (Path.isDigit_of_mem_toString letter) (by decide)

/-- A name that begins otherwise than reserved names can stand in a tree. -/
theorem calm_spent
    {first : Nat}
    {name : String}
    (noNull : FileWork.holdsNull name = false)
    (begins : name.toList.head? ≠ some '.' ∧ name.toList.head? ≠ some 'c')
    (notLetter : name.toList.head? ≠ some 'x') :
    calm.Spent first name := by
  refine spent_of_head noNull begins ?_
  rintro number rfl
  exact notLetter (calm_head number)

end Machine

/-- A path without parts has no part that is reserved. -/
theorem Path.Unreserved.of_nil
    {machine : Machine}
    {path : Path}
    {first : Nat}
    (noParts : path.parts = []) :
    path.Unreserved machine first := by
  intro part member
  rw [noParts] at member
  cases member

/-- Where new names are rows of one letter, `out` is no reserved name. -/
theorem Path.Unreserved.of_calm
    {machine : Machine}
    {first : Nat}
    (named : machine.names = Machine.calm.names) :
    (⟨.relative, ["out"]⟩ : Path).Unreserved machine first := by
  intro part member
  obtain rfl := List.mem_singleton.1 member
  rintro ⟨number, begun, same⟩
  rw [named] at same
  exact (Machine.calm_spent (by decide) (by decide) (by decide)).notReserved
    ⟨number, begun, same⟩

/-- The empty tree is tidy, if it is worked in from its root. -/
theorem Workspace.Tidy.of_empty
    {machine : Machine}
    (root : machine.directory = []) :
    ({ tree := .empty } : Workspace).Tidy machine 0 where
  distinct := List.nodup_nil
  begun := Nat.le_refl _
  home := by
    rw [root]
    nofun
  spent := by
    intro location holds name member
    cases location with
    | nil => cases member
    | cons outer inner => cases holds

end GrammarCorpus
