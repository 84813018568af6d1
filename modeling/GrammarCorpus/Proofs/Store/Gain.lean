import GrammarCorpus.Proofs.Files.Opening
import GrammarCorpus.Proofs.Store.Outcome

namespace GrammarCorpus

/-!
# What storing gains at any path

The output path may turn back from a place that is missing. When storing succeeds all the
same, its first file has opened the way: directories have been made wherever the path
needs them, and from then on it leads to a directory that stands. All that follows is a
delivery to there, from a tree in which the way was open already.
-/

open FileTree

variable {machine : Machine} {workspace : Workspace} {output : Path} {partition : Partition}

/--
A place on the way to files below an output directory: one above a file, or one to which a
beginning of the output path leads.
-/
def FileTree.OnTheWay
    (tree : FileTree)
    (directory : Location)
    (output : Path)
    (files : List (Path × String))
    (location : Location) : Prop :=
  (∃ file ∈ files, ∃ place,
      tree.resolve directory file.1 = .ok place ∧ location <:+ place) ∨
    ∃ parts, parts <+: output.parts ∧
      tree.resolve directory ⟨output.anchor, parts⟩ = .ok location

/--
The second tree is the first one with files added: each file where its path leads, with
its text. All else that is new are directories on the way to these files.
-/
structure Gains
    (directory : Location)
    (output : Path)
    (before after : FileTree)
    (files : List (Path × String)) : Prop where
  kept : before.Within after
  stored : ∀ file ∈ files, ∃ location,
    after.resolve directory file.1 = .ok location ∧
      before.find? location = none ∧
      after.find? location = some (.file file.2.toUTF8)
  apart : files.Pairwise fun first second =>
    after.resolve directory first.1 ≠ after.resolve directory second.1
  nothingElse : ∀ location entry,
    after.find? location = some entry →
      before.find? location = none →
      (∃ file ∈ files, after.resolve directory file.1 = .ok location) ∨
        entry = .directory ∧ files ≠ [] ∧ after.OnTheWay directory output files location

/-- Directories that are made on a way that is not reserved keep a workspace tidy. -/
theorem Workspace.Tidy.furnish
    {first : Nat}
    {path : Path}
    {tree : FileTree}
    (tidy : workspace.Tidy machine first)
    (unreserved : path.Unreserved machine first)
    (handed : FileWork.holdsNull path.text = false)
    (furnished : Furnished machine.directory path workspace.tree tree) :
    ({ workspace with tree } : Workspace).Tidy machine first := by
  obtain ⟨start, isStart⟩ : ∃ start, start = workspace.tree := ⟨_, rfl⟩
  rw [← isStart] at furnished
  induction furnished with
  | done => exact tidy.of_tree_eq isStart (Nat.le_refl _)
  | made earlier onTheWay leads free inductionHypothesis =>
      refine inductionHypothesis.insert ?_ ?_ rfl rfl
      · rintro rfl
        simp at free
      · refine inductionHypothesis.spent_of_resolve
          (fun part member => unreserved part (onTheWay.subset member)) ?_ leads
        rw [Path.holdsNull_text, List.any_eq_false] at handed ⊢
        exact fun part member => handed part (onTheWay.subset member)

/-- A tree has gained nothing in itself. -/
theorem Gains.refl (directory : Location) (output : Path) (tree : FileTree) :
    Gains directory output tree tree [] where
  kept := .refl tree
  stored := nofun
  apart := .nil
  nothingElse location entry found free := by
    cases found.symm.trans free

/-- Where nothing is gained and nothing leads to what is gained, all is as it was. -/
theorem Gains.find?_eq
    {directory location : Location}
    {before after : FileTree}
    {files : List (Path × String)}
    (gains : Gains directory output before after files)
    (aside : files ≠ [] → ¬ after.OnTheWay directory output files location) :
    after.find? location = before.find? location := by
  cases held : before.find? location with
  | some entry => exact gains.kept location entry held
  | none =>
      cases found : after.find? location with
      | none => rfl
      | some entry =>
          rcases gains.nothingElse location entry found held with
            ⟨file, member, leads⟩ | ⟨-, some, onTheWay⟩
          · exact absurd (.inl ⟨file, member, location, leads, List.suffix_refl _⟩)
              (aside (List.ne_nil_of_mem member))
          · exact absurd onTheWay (aside some)

/-- What is received where the way was opened is gained. -/
theorem Receives.gains
    {directory : Location}
    {before opened after : FileTree}
    {files : List (Path × String)}
    (receives : Receives directory opened after files)
    (opens : Opens directory output before opened)
    (some : files ≠ []) :
    Gains directory output before after files where
  kept location entry found := receives.kept location entry (opens.kept location entry found)
  stored file member := by
    obtain ⟨location, leads, free, found, -⟩ := receives.stored file member
    exact ⟨location, leads, opens.kept.free free, found⟩
  apart := receives.apart
  nothingElse location entry found free := by
    cases there : opened.find? location with
    | none =>
        obtain ⟨file, member, place, leads, above, onTheWay⟩ :=
          receives.nothingElse location entry found there
        by_cases same : location = place
        · exact .inl ⟨file, member, same ▸ leads⟩
        · exact .inr ⟨onTheWay same, some, .inl ⟨file, member, place, leads, above⟩⟩
    | some other =>
        cases found.symm.trans (receives.kept location other there)
        obtain ⟨isDirectory, parts, onTheWay, leads⟩ := opens.onTheWay location entry there free
        exact .inr ⟨isDirectory, some, .inr ⟨parts, onTheWay, receives.kept.resolve leads⟩⟩

/-- A ledger in which more directories are listed, before the others. -/
def Ledger.listing (earlier : List Path) (ledger : Ledger) : Ledger :=
  { ledger with created := earlier ++ ledger.created }

namespace Store

/-- The staging directory is a new name behind the output path. -/
theorem stagingOf_eq (apart : machine.NamesApart) :
    stagingOf machine workspace output =
      ⟨output.anchor, output.parts ++ [".staging-" ++ machine.names workspace.named]⟩ :=
  Path.child_isName (Delivery.isName_staging (apart.isName _)) output

/-- What is listed does not matter to staging. -/
theorem perform_stage_listing
    (earlier : List Path)
    (staging : Path)
    (size : Int)
    (items : List (CorpusClass × Classified))
    (ledger : Ledger)
    (workspace : Workspace) :
    let staged := (stage output staging size items ledger).perform machine workspace
    (stage output staging size items (ledger.listing earlier)).perform machine workspace =
      ((staged.1.1, staged.1.2.listing earlier), staged.2) := by
  induction items generalizing ledger workspace with
  | nil => rfl
  | cons item rest inductionHypothesis =>
      obtain ⟨corpusClass, classified⟩ := item
      intro staged
      have shape : staged = _ :=
        perform_stage_cons output staging size corpusClass classified rest ledger
      rw [perform_stage_cons, shape]
      simp only
      split
      · rfl
      · exact inductionHypothesis ⟨_, ledger.placements ++ _, ledger.moved, ledger.created⟩ _

/-- What is listed does not matter to settling. -/
theorem perform_settle_listing
    (earlier : List Path)
    (placements : List Placement)
    (ledger : Ledger)
    (workspace : Workspace) :
    let settled := (settle placements ledger).perform machine workspace
    (settle placements (ledger.listing earlier)).perform machine workspace =
      ((settled.1.1, settled.1.2.listing earlier), settled.2) := by
  induction placements generalizing ledger workspace with
  | nil => rfl
  | cons placement rest inductionHypothesis =>
      intro settled
      obtain ⟨listed, found⟩ : ∃ listed,
        ((FileWork.missing placement.stored.parent).run.perform machine workspace).1 = listed :=
          ⟨_, rfl⟩
      obtain ⟨result, performed⟩ : ∃ result,
        (moveBelow placement.staged placement.stored).run.perform machine workspace = result :=
          ⟨_, rfl⟩
      obtain ⟨unlisted, moves⟩ := Delivery.perform_settle_cons rest ledger found performed
      obtain ⟨unlistedToo, movesToo⟩ :=
        Delivery.perform_settle_cons rest (ledger.listing earlier) found performed
      cases listed with
      | error failure =>
          rw [show settled = _ from unlisted failure rfl, unlistedToo failure rfl]
          rfl
      | ok more =>
          obtain ⟨fails, goesOn⟩ := moves more rfl
          obtain ⟨failsToo, goesOnToo⟩ := movesToo more rfl
          cases ended : result.1 with
          | error failure =>
              rw [show settled = _ from fails failure ended, failsToo failure ended]
              simp [Ledger.listing]
          | ok value =>
              rw [show settled = _ from goesOn ended, goesOnToo ended]
              simpa [Ledger.listing] using inductionHypothesis
                ⟨placement.stored, ledger.placements, ledger.moved ++ [placement.stored],
                  ledger.created ++ more⟩ result.2

end Store

namespace Delivery

/-- A delivery goes straight to a directory that stands, and nothing but the way is there yet. -/
structure Enters
    {opened : FileTree}
    (delivery : Delivery machine opened)
    (workspace : Workspace)
    (size : Int)
    (output : Path)
    (tree : FileTree) : Prop where
  here : delivery.output = []
  output_eq : delivery.site.path delivery.output = output
  root_eq : delivery.site.path delivery.root = Store.stagingOf machine workspace output
  size_eq : delivery.size = size
  first_eq : delivery.first = workspace.named + 1
  tracked : delivery.Tracked [] [] tree

/-- If nothing but the staging directory is new, with what is in it, all is accounted for. -/
theorem tracked_of_prune
    {tree : FileTree}
    {place : Location}
    (delivery : Delivery machine (tree.prune place))
    (isPlace : delivery.site.place delivery.root = place)
    (grounded : tree.Grounded)
    (leads : tree.resolve machine.directory (delivery.site.path delivery.root) = .ok place)
    (found : tree.find? place = some .directory) :
    delivery.Tracked [] [] tree where
  within := prune_within tree place
  grounded := grounded
  freshCreated := nofun
  freshMoved := nofun
  freshStaging parts member := List.mem_singleton.1 member ▸ fresh_root
  accounted location entry holds free := by
    have fresh : delivery.site.Fresh (delivery.site.path delivery.root) := fresh_root
    obtain ⟨others, some, downward, same, -⟩ := fresh
    cases Site.path_injective same
    obtain ⟨-, usable, -⟩ :=
      delivery.site.eq_place_of_resolve (prune_within tree place) some downward leads
    rw [find?_prune_below (isPlace ▸ Site.place_ne_nil some)] at free
    split at free
    · rename_i inside
      by_cases here : location = place
      · subst here
        cases found.symm.trans holds
        have there : delivery.site.Accounted [] [] [delivery.root]
            (delivery.site.place delivery.root) .directory :=
          .staging (List.mem_singleton_self _) usable
        rwa [isPlace] at there
      · rw [← isPlace] at inside here
        exact .staged (List.mem_singleton_self _) inside here
    · cases holds.symm.trans free

/-- If nothing on the way to a staging directory is reserved, nothing below it is either. -/
theorem unreserved_way
    {first number : Nat}
    {size : Int}
    (apart : machine.NamesApart)
    (avoids : machine.Avoids size)
    (unreserved : output.Unreserved machine first)
    (begun : first ≤ number)
    (corpusClass : CorpusClass) :
    let way : Path := ⟨output.anchor, output.parts ++
      (".staging-" ++ machine.names number) :: [corpusClass.text, toString size]⟩
    way.Unreserved machine (number + 1) := by
  have isName := isName_staging (apart.isName number)
  have child := (unreserved.of_le (Nat.le_succ_of_le begun)).child isName
    (apart.spent_staging number)
  have whole := (child.child corpusClass.isName_text (apart.spent_class corpusClass)).child
    (Path.isName_toString size) avoids.spent
  rw [Path.child_isName isName, Path.child_isName corpusClass.isName_text,
    Path.child_isName (Path.isName_toString size)] at whole
  simpa using whole

/-- Where an output path leads to a directory, there is a delivery right to this directory. -/
theorem exists_delivery_here
    {first : Nat}
    {tree : FileTree}
    {staging : String}
    {base : Location}
    (apart : machine.NamesApart)
    (tidy : ({ workspace with named := workspace.named + 1, tree } : Workspace).Tidy machine first)
    (grounded : (tree.prune (staging :: base)).Grounded)
    (reached : tree.walk (if output.anchor = .relative then machine.directory else [])
      output.parts = .ok base)
    (isDirectory : tree.isDirectory base = true)
    (notHome : staging ∉ machine.directory)
    (notInside : staging ∉ output.parts)
    (handed : ∀ part ∈ output.parts, FileWork.holdsNull part = false)
    (isStaging : staging = ".staging-" ++ machine.names workspace.named)
    (size : Int) :
    ∃ delivery : Delivery machine (tree.prune (staging :: base)),
      delivery.output = [] ∧
        delivery.site.path delivery.output = output ∧
        delivery.site.place delivery.root = staging :: base ∧
        delivery.site.path delivery.root = Store.stagingOf machine workspace output ∧
        delivery.size = size ∧
        delivery.first = workspace.named + 1 := by
  have isName : Path.IsName staging := isStaging ▸ isName_staging (apart.isName _)
  have newNames := tidy.newNames apart
  have fewer := prune_within tree (staging :: base)
  have notStart : staging ∉
      (if output.anchor = .relative then machine.directory else []) := by
    split
    · exact notHome
    · exact List.not_mem_nil
  let site : Site machine.directory (tree.prune (staging :: base)) := {
    anchor := output.anchor
    known := output.parts
    base
    grounded
    leads := walk_prune reached notStart notInside
    holds := by
      rw [FileTree.contains, find?_prune_of_not_mem]
      · exact contains_of_isDirectory isDirectory
      · exact fun member => (mem_of_walk reached member).elim notStart notInside }
  refine ⟨{
    site
    output := []
    staging
    size
    first := workspace.named + 1
    downward := fun _ => List.not_mem_nil
    nameable := fun location holds name member =>
      tidy.nameable location (fewer.contains holds) name member
    nullFree := handed
    outputFree := fun taken some inside => absurd (List.prefix_nil.1 inside) some
    stagingName := isName
    stagingFree := by
      rw [find?_prune_below (List.cons_ne_nil _ _)]
      exact if_pos (List.suffix_refl _)
    stagingApart := fun corpusClass => isStaging ▸ staging_ne_text _ corpusClass
    names := { newNames with
      unused := fun number location begun member =>
        fewer.free (newNames.unused number location begun member) } },
    rfl, by simp [Site.path, site], rfl, ?_, rfl, rfl⟩
  exact ((congrArg (fun name => (⟨output.anchor, output.parts ++ [name]⟩ : Path))
    isStaging).trans (Store.stagingOf_eq apart).symm)

/-- Where the way to a staging directory was made, a delivery goes to the directory above. -/
theorem exists_enters
    {first : Nat}
    {tree : FileTree}
    {staging : String}
    {corpusClass : CorpusClass}
    {size : Int}
    {way : Path}
    (apart : machine.NamesApart)
    (avoids : machine.Avoids size)
    (tidy : workspace.Tidy machine first)
    (grounded : workspace.tree.Grounded)
    (home : workspace.tree.isDirectory machine.directory = true)
    (unreserved : output.Unreserved machine first)
    (isStaging : staging = ".staging-" ++ machine.names workspace.named)
    (isWay : way =
      ⟨output.anchor, output.parts ++ staging :: [corpusClass.text, toString size]⟩)
    (furnished : Furnished machine.directory way workspace.tree tree)
    (reaches : tree.LeadsToDirectory machine.directory way)
    (handed : FileWork.holdsNull way.text = false) :
    ∃ opened, Opens machine.directory output workspace.tree opened ∧
      ∃ delivery : Delivery machine opened,
        delivery.Enters workspace size output tree := by
  have isName : Path.IsName staging := isStaging ▸ isName_staging (apart.isName _)
  have reserved : machine.Reserves first staging :=
    ⟨workspace.named, tidy.begun, .inr (.inl isStaging)⟩
  have plain : ".." ∉ staging :: [corpusClass.text, toString size] := by
    simp only [List.mem_cons, List.not_mem_nil, or_false, not_or]
    exact ⟨Ne.symm isName.notTwoPoints, Ne.symm corpusClass.isName_text.notTwoPoints,
      Ne.symm (Path.isName_toString size).notTwoPoints⟩
  have unreservedWay : way.Unreserved machine (workspace.named + 1) := by
    rw [isWay, isStaging]
    exact unreserved_way apart avoids unreserved tidy.begun corpusClass
  have tidyThen : ({ workspace with named := workspace.named + 1, tree } : Workspace).Tidy machine
      (workspace.named + 1) :=
    tidy.next.furnish unreservedWay handed furnished
  have notHome : staging ∉ machine.directory :=
    fun member => (tidy.home _ member).notReserved reserved
  have notInside : staging ∉ output.parts :=
    fun member => unreserved _ member reserved
  have unknown : ∀ location, staging ∈ location → workspace.tree.find? location = none :=
    fun location member => (tidy.newNames apart).unused workspace.named location (Nat.le_refl _)
      (.inr (isStaging ▸ member))
  subst isWay
  obtain ⟨base, reached, leads, found, opens⟩ :=
    exists_opens furnished reaches home grounded plain unknown notHome notInside
  have groundedThen := furnished.grounded home grounded
  have above := groundedThen staging base (contains_iff.2 ⟨_, found⟩)
  have handedParts : ∀ part ∈ output.parts, FileWork.holdsNull part = false := by
    intro part member
    rw [Path.holdsNull_text, List.any_eq_false] at handed
    rw [← Bool.not_eq_true]
    exact handed part (List.mem_append_left _ member)
  obtain ⟨delivery, here, isOutput, isPlace, isRoot, isSize, isFirst⟩ :=
    exists_delivery_here apart tidyThen opens.grounded reached above notHome notInside handedParts
      isStaging size
  refine ⟨_, opens, delivery, here, isOutput, isRoot, isSize, isFirst,
    delivery.tracked_of_prune isPlace groundedThen ?_ found⟩
  rw [isRoot, Store.stagingOf_eq apart, ← isStaging]
  exact leads

end Delivery

namespace Store

/-- What is listed before does not matter to an attempt. -/
theorem attempt_listing (created : List Path) :
    let tried := attempt machine workspace partition output []
    attempt machine workspace partition output created =
      ((tried.1.1, tried.1.2.listing created), tried.2) := by
  intro tried
  have start : (⟨output, [], [], created⟩ : Ledger) =
      Ledger.listing created ⟨output, [], [], []⟩ := by
    simp [Ledger.listing]
  have shape : tried = _ := Work.perform_bind _ _ machine _
  unfold attempt stageAndSettle
  simp only [start, Work.perform_bind, perform_stage_listing]
  rw [shape]
  generalize (stage output (stagingOf machine workspace output) partition.size
    partition.contents ⟨output, [], [], []⟩).perform machine _ = staged
  obtain ⟨⟨failed, ledger⟩, after⟩ := staged
  cases failed with
  | some failure => rfl
  | none => exact perform_settle_listing created ledger.placements ledger after

/-- The first file that is staged lies below the staging directory. -/
theorem place_staging_eq
    (apart : machine.NamesApart)
    (corpusClass : CorpusClass)
    (size : Int)
    (number : Nat) :
    place (stagingOf machine workspace output) corpusClass size (machine.names number) =
      ⟨output.anchor, output.parts ++ (".staging-" ++ machine.names workspace.named) ::
        [corpusClass.text, toString size, machine.names number]⟩ := by
  rw [place_eq (apart.isName _), stagingOf_eq apart]
  simp

/-- Where a delivery goes straight to a directory, it begins with the first file. -/
theorem staging_of_write
    {opened : FileTree}
    {delivery : Delivery machine opened}
    {corpusClass : CorpusClass}
    {classified : Classified}
    {size : Int}
    {path : Path}
    {made : Workspace}
    (enters : delivery.Enters workspace size output made.tree)
    (named : made.named = workspace.named + 2)
    (isPath : path = place (stagingOf machine workspace output) corpusClass size
      (machine.names (workspace.named + 1)))
    (done : ((FileWork.write path classified.text).run.perform machine made).1 = .ok ()) :
    let written := ((FileWork.write path classified.text).run.perform machine made).2
    written.named = workspace.named + 2 ∧
      delivery.Staging
        [⟨corpusClass, machine.names (workspace.named + 1), classified.text⟩]
        { current := path
          placements := [⟨corpusClass, path,
            place output corpusClass size (machine.names (workspace.named + 1))⟩]
          moved := []
          created := [] }
        written := by
  obtain ⟨shipment, isShipment⟩ : ∃ shipment : Shipment, shipment =
    ⟨corpusClass, machine.names (workspace.named + 1), classified.text⟩ := ⟨_, rfl⟩
  have isNamed : delivery.Named shipment := by
    rw [isShipment]
    exact ⟨workspace.named + 1, Nat.le_of_eq enters.first_eq, rfl⟩
  have file : path = delivery.site.path (delivery.file delivery.root shipment) := by
    rw [← Delivery.place_eq_file isNamed, enters.root_eq, enters.size_eq, isShipment, isPath]
  have text : classified.text = shipment.text := by rw [isShipment]
  have placement : delivery.placement shipment = ⟨corpusClass, path,
      place output corpusClass size (machine.names (workspace.named + 1))⟩ := by
    unfold Delivery.placement Shipment.placement
    rw [enters.output_eq, enters.root_eq, enters.size_eq, isShipment, isPath]
  have begun : delivery.Staging [] ⟨output, [], [], []⟩
      { made with named := workspace.named + 1 } := {
    tracked := enters.tracked
    lists := fun taken some inside =>
      absurd (List.prefix_nil.1 (enters.here ▸ inside)) some
    begun := Nat.le_of_eq enters.first_eq
    apart := nofun
    staged := nofun
    handed := nofun
    placements_eq := rfl }
  intro written
  have shape : written = ((FileWork.write (delivery.site.path
      (delivery.file delivery.root shipment)) shipment.text).run.perform machine made).2 := by
    unfold written
    rw [file, text]
  rw [file, text] at done
  obtain ⟨tracked, namedThen, kept, holds⟩ := Delivery.write_staged made isNamed enters.tracked
  obtain ⟨staged, rootHanded⟩ := holds done
  have next := begun.next isShipment tracked (namedThen.trans named) kept staged rootHanded
  rw [← shape, placement, isShipment] at next
  rw [← shape] at namedThen
  exact ⟨namedThen.trans named, next⟩

/--
When the first file is staged, the way to the output directory is open, and all further
files are delivered there.
-/
theorem exists_staging_of_first
    {first : Nat}
    {corpusClass : CorpusClass}
    {classified : Classified}
    {size : Int}
    {path : Path}
    {written : Except FileFailure Unit × Workspace}
    (apart : machine.NamesApart)
    (avoids : machine.Avoids size)
    (tidy : workspace.Tidy machine first)
    (grounded : workspace.tree.Grounded)
    (home : workspace.tree.isDirectory machine.directory = true)
    (unreserved : output.Unreserved machine first)
    (isPath : path = place (stagingOf machine workspace output) corpusClass size
      (machine.names (workspace.named + 1)))
    (performed : (writeBelow path classified.text).run.perform machine
      { workspace with named := workspace.named + 2 } = written)
    (done : written.1 = .ok ()) :
    ∃ opened, Opens machine.directory output workspace.tree opened ∧
      ∃ (delivery : Delivery machine opened) (tree : FileTree),
        delivery.Enters workspace size output tree ∧
          written.2.named = workspace.named + 2 ∧
          delivery.Staging
            [⟨corpusClass, machine.names (workspace.named + 1), classified.text⟩]
            { current := path
              placements := [⟨corpusClass, path,
                place output corpusClass size (machine.names (workspace.named + 1))⟩]
              moved := []
              created := [] }
            written.2 := by
  have isWay : path.parent = ⟨output.anchor, output.parts ++
      (".staging-" ++ machine.names workspace.named) :: [corpusClass.text, toString size]⟩ := by
    rw [isPath, place_staging_eq apart]
    simp [Path.parent, List.dropLast_append_of_ne_nil]
  have shape : written = _ := performed.symm.trans (Work.perform_run_bind _ _ machine _)
  obtain ⟨furnished, reaches⟩ := FileWork.Furnishes.makeDirectories machine path.parent
    { workspace with named := workspace.named + 2 }
  have named : ((FileWork.makeDirectories path.parent).run.perform machine
      { workspace with named := workspace.named + 2 }).2.named = workspace.named + 2 :=
    Nameless.makeDirectoriesFrom _ _ machine _
  generalize (FileWork.makeDirectories path.parent).run.perform machine
    { workspace with named := workspace.named + 2 } = made at shape furnished reaches named
  cases ended : made.1 with
  | error failure =>
      simp only [ended] at shape
      rw [shape] at done
      cases done
  | ok value =>
      simp only [ended] at shape
      rw [shape] at done ⊢
      have handed := FileWork.holdsNull_of_write done
      obtain ⟨opened, opens, delivery, enters⟩ := Delivery.exists_enters apart avoids tidy grounded
        home unreserved rfl isWay furnished (reaches ended) (by
          rw [Path.holdsNull_text, List.any_eq_false] at handed ⊢
          exact fun part member => handed part (List.dropLast_subset _ member))
      exact ⟨opened, opens, delivery, made.2.tree, enters,
        staging_of_write enters named isPath done⟩

/-- When an attempt comes to its end, all files stand where the way to them was opened. -/
theorem exists_settling
    {first : Nat}
    {created : List Path}
    {tried : (Option FileFailure × Ledger) × Workspace}
    (apart : machine.NamesApart)
    (avoids : machine.Avoids partition.size)
    (tidy : workspace.Tidy machine first)
    (grounded : workspace.tree.Grounded)
    (home : workspace.tree.isDirectory machine.directory = true)
    (unreserved : output.Unreserved machine first)
    (performed : attempt machine workspace partition output created = tried)
    (ends : tried.1.1 = none)
    (notEmpty : partition.contents ≠ []) :
    ∃ opened, Opens machine.directory output workspace.tree opened ∧
      ∃ (delivery : Delivery machine opened) (tree : FileTree) (ledger : Ledger),
        delivery.Enters workspace partition.size output tree ∧
          delivery.Settling (Shipment.all machine.names delivery.first partition.contents) []
            ledger tried.2.tree ∧
          delivery.RootHanded ∧
          tried.2.tree.isDirectory (delivery.site.place delivery.root) = true := by
  rw [attempt_listing] at performed
  subst performed
  simp only at ends ⊢
  obtain ⟨⟨corpusClass, classified⟩, rest, whole⟩ := List.exists_cons_of_ne_nil notEmpty
  have shape : attempt machine workspace partition output [] = _ := Work.perform_bind _ _ machine _
  have staging := @perform_stage_cons machine { workspace with named := workspace.named + 1 }
    output (stagingOf machine workspace output) partition.size corpusClass classified rest
    ⟨output, [], [], []⟩
  rw [whole, staging] at shape
  simp only at shape
  generalize performed : (writeBelow (place (stagingOf machine workspace output) corpusClass
    partition.size (machine.names (workspace.named + 1))) classified.text).run.perform machine
      { workspace with named := workspace.named + 1 + 1 } = written at shape
  cases wrote : written.1 with
  | error failure =>
      simp only [wrote] at shape
      rw [shape] at ends
      cases ends
  | ok value =>
      obtain ⟨opened, opens, delivery, tree, enters, named, first⟩ :=
        exists_staging_of_first apart avoids tidy grounded home unreserved rfl performed wrote
      simp only [wrote] at shape
      obtain ⟨-, sameCreated, sameMoved, finishes⟩ := Delivery.stage_tracked rest written.2 first
      rw [enters.output_eq, enters.root_eq, enters.size_eq] at sameCreated sameMoved finishes
      rw [List.nil_append] at shape
      generalize (stage output (stagingOf machine workspace output) partition.size rest
        _).perform machine written.2 = staged at shape sameCreated sameMoved finishes
      have row : Shipment.all machine.names delivery.first partition.contents =
          [⟨corpusClass, machine.names (workspace.named + 1), classified.text⟩] ++
            Shipment.all machine.names written.2.named rest := by
        rw [whole, enters.first_eq, named]
        rfl
      obtain ⟨⟨failed, ledger⟩, after⟩ := staged
      cases failed with
      | some failure =>
          rw [shape] at ends
          cases ends
      | none =>
          have finished := finishes rfl
          rw [← row] at finished
          obtain ⟨-, settles⟩ := Delivery.settle_staged after finished
            (fun path listed => by
              rw [show ledger.created = [] from sameCreated] at listed
              cases listed)
            sameMoved
          rw [show (settle ledger.placements ledger).perform machine after = _ from shape.symm]
            at settles
          obtain ⟨-, settling, root⟩ := settles ends
          obtain ⟨handed, isDirectory⟩ := root (Shipment.all_ne_nil notEmpty)
          exact ⟨opened, opens, delivery, tree, _, enters, settling, handed, isDirectory⟩

/-- Before it has been made, no staging directory is seen. -/
theorem lookAt_staging_ne_some
    {first : Nat}
    (apart : machine.NamesApart)
    (tidy : workspace.Tidy machine first)
    (entry : Entry) :
    workspace.tree.lookAt machine.directory (stagingOf machine workspace output) ≠
      .ok (some entry) := by
  intro seen
  have isName := Delivery.isName_staging (apart.isName workspace.named)
  unfold stagingOf at seen
  rw [Path.child_isName isName] at seen
  obtain ⟨location, leads, found⟩ := resolve_of_lookAt_eq_some seen
  have last := head?_of_resolve leads isName.notTwoPoints
  exact (tidy.spent location (contains_iff.2 ⟨_, found⟩) _ (List.mem_of_mem_head? last)).notReserved
    ⟨workspace.named, Nat.le_refl _, .inr (.inl rfl)⟩

/-- Storing nothing leaves the tree as it is, if it succeeds. -/
theorem persist_unchanged_of_empty
    {first : Nat}
    {created : List Path}
    {placements : List Placement}
    (apart : machine.NamesApart)
    (tidy : workspace.Tidy machine first)
    (found : ((FileWork.missing output).run.perform machine workspace).1 = .ok created)
    (empty : partition.contents = [])
    (done : ((persist partition output).run.perform machine workspace).1 = .ok placements) :
    ((persist partition output).run.perform machine workspace).2.tree = workspace.tree := by
  have shape := perform_persist_of_none found (attempt_of_empty empty created) rfl rfl
  simp only at shape
  cases seen : workspace.tree.lookAt machine.directory (stagingOf machine workspace output) with
  | error failure =>
      rw [seen] at shape
      rw [shape] at done
      cases done
  | ok entry =>
      rw [seen] at shape
      cases entry with
      | none => rw [shape]
      | some entry => exact absurd seen (lookAt_staging_ne_some apart tidy entry)

/-- Storing is a gain whatever the output path is, if it succeeds. -/
theorem persist_gains
    {first : Nat}
    {placements : List Placement}
    (apart : machine.NamesApart)
    (avoids : machine.Avoids partition.size)
    (tidy : workspace.Tidy machine first)
    (grounded : workspace.tree.Grounded)
    (home : workspace.tree.isDirectory machine.directory = true)
    (unreserved : output.Unreserved machine first)
    (done : ((persist partition output).run.perform machine workspace).1 = .ok placements) :
    let after := ((persist partition output).run.perform machine workspace).2.tree
    after.Grounded ∧
      Gains machine.directory output workspace.tree after
        (partition.files output machine.names (workspace.named + 1)) := by
  intro after
  cases found : ((FileWork.missing output).run.perform machine workspace).1 with
  | error failure =>
      rw [perform_persist_of_error found] at done
      cases done
  | ok created =>
      by_cases empty : partition.contents = []
      · have same : after = workspace.tree := persist_unchanged_of_empty apart tidy found empty done
        rw [same]
        unfold Partition.files
        rw [empty]
        exact ⟨grounded, .refl _ _ _⟩
      · generalize performed : attempt machine workspace partition output created = tried
        cases ended : tried.1.1 with
        | some failure =>
            rw [perform_persist_of_failure found performed ended] at done
            cases done
        | none =>
            have shape := perform_persist_of_none found performed rfl ended
            obtain ⟨opened, opens, delivery, tree, ledger, enters, settling, handed, isDirectory⟩ :=
              exists_settling apart avoids tidy grounded home unreserved performed ended empty
            have leads := Delivery.resolve_root settling.tracked isDirectory
            have handedRoot := handed.holdsNull
            rw [enters.root_eq] at leads handedRoot
            have seen := lookAt_of_resolve handedRoot leads
            rw [isDirectory_iff.1 isDirectory] at seen
            rw [seen] at shape
            simp only at shape
            have ending := FileWork.removeTree_cases handedRoot leads isDirectory
            generalize (FileWork.removeTree (stagingOf machine workspace output)).run.perform
              machine tried.2 = cleared at shape ending
            rcases ending with ⟨-, error, failed, -⟩ | ⟨-, pruned⟩
            · rw [shape, failed] at done
              cases done
            · have gone : after = tried.2.tree.prune (delivery.site.place delivery.root) := by
                unfold after
                rw [shape]
                exact pruned
              have receives := settling.receives empty
              rw [enters.first_eq, enters.output_eq, enters.size_eq] at receives
              rw [gone]
              refine ⟨settling.tracked.prune.grounded, receives.gains opens ?_⟩
              simpa [Partition.files] using Shipment.all_ne_nil empty

end Store

end GrammarCorpus
