import GrammarCorpus.Corpus.Scratch
import GrammarCorpus.Proofs.Files.PathReading
import GrammarCorpus.Proofs.Store.Gain

namespace GrammarCorpus

/-!
# Scratch directories

A scratch directory is made at a free place, under a name that was just given. As long as
everything new lies in it, removing it leaves the tree as it was before it was made; and
what a corpus has received in the meantime, it keeps.
-/

open FileTree Work

namespace FileWork

variable {machine : Machine} {workspace : Workspace}

/-- Where a path leads that is handed over as a text. -/
theorem perform_locateAs (handed : String) (path : Path) :
    (Work.locateAs handed path).perform machine workspace =
      (if Work.pathLimit < handed.utf8ByteSize then .error .nameTooLong
        else workspace.tree.walk
          (if path.anchor = .relative then machine.directory else []) path.parts,
        workspace) := by
  simp only [locateAs, perform_bind, perform_read, perform_get]
  split <;> rfl

/-- Where a text may lead, the path that is read from it leads. -/
theorem resolve_ofText
    {text : String}
    (some : (Path.ofText text).parts ≠ [])
    (short : ¬ Work.pathLimit < text.utf8ByteSize) :
    workspace.tree.resolve machine.directory (Path.ofText text) =
      workspace.tree.walk (if (Path.ofText text).anchor = .relative then machine.directory
        else []) (Path.ofText text).parts := by
  unfold FileTree.resolve
  rw [if_neg]
  have shorter := Path.utf8ByteSize_ofText_le some
  omega

/--
Making a directory at a path that is read from a text fails and does nothing, or makes it
at a free location.
-/
theorem makeDirectoryAs_cases
    (machine : Machine)
    (workspace : Workspace)
    {text : String}
    (some : (Path.ofText text).parts ≠ []) :
    let after := (makeDirectoryAs text (Path.ofText text)).run.perform machine workspace
    after.2.named = workspace.named ∧
      ((∃ failure, after.1 = .error failure ∧ after.2.tree = workspace.tree) ∨
        ∃ location,
          after.1 = .ok () ∧
            holdsNull (Path.ofText text).text = false ∧
            workspace.tree.resolve machine.directory (Path.ofText text) = .ok location ∧
            workspace.tree.find? location = none ∧
            after.2.tree = workspace.tree.insert location .directory) := by
  intro after
  have shape : after = _ := perform_reporting text none _
  by_cases null : holdsNull text = true
  · rw [null, Bool.true_or, if_pos rfl] at shape
    rw [shape]
    exact ⟨rfl, .inl ⟨_, rfl, rfl⟩⟩
  · rw [Bool.not_eq_true] at null
    simp only [null, Option.any_none, Bool.or_false, Bool.false_eq_true, if_false, faulty,
      Work.nextFault, perform_bind, perform_read, perform_modifyGet, perform_locateAs] at shape
    by_cases long : Work.pathLimit < text.utf8ByteSize
    · simp only [long, if_true] at shape
      cases met : machine.faults workspace.calls <;>
      · rw [met] at shape
        rw [shape]
        exact ⟨rfl, .inl ⟨_, rfl, rfl⟩⟩
    · have leads := @resolve_ofText machine workspace text some long
      simp only [long, if_false, ← leads] at shape
      cases met : machine.faults workspace.calls with
      | some fault =>
          cases reached : workspace.tree.resolve machine.directory (Path.ofText text) <;>
          · rw [met, reached] at shape
            rw [shape]
            exact ⟨rfl, .inl ⟨_, rfl, rfl⟩⟩
      | none =>
          cases reached : workspace.tree.resolve machine.directory (Path.ofText text) with
          | error cause =>
              rw [met, reached] at shape
              rw [shape]
              exact ⟨rfl, .inl ⟨_, rfl, rfl⟩⟩
          | ok location =>
              rw [met, reached] at shape
              simp only [perform_change] at shape
              cases free : workspace.tree.find? location with
              | some entry =>
                  have taken : workspace.tree.makeDirectory location = .error .alreadyExists := by
                    simp [FileTree.makeDirectory, FileTree.contains, free]
                  rw [taken] at shape
                  rw [shape]
                  exact ⟨rfl, .inl ⟨_, rfl, rfl⟩⟩
              | none =>
                  have made : workspace.tree.makeDirectory location =
                      .ok (workspace.tree.insert location .directory) := by
                    simp [FileTree.makeDirectory, FileTree.contains, free]
                  rw [made] at shape
                  rw [shape]
                  exact ⟨rfl, .inr ⟨location, rfl, Path.holdsNull_ofText null, rfl, free, rfl⟩⟩

end FileWork

/-- The name of a scratch directory is a name. -/
theorem Path.IsName.scratch {name : String} (isName : IsName name) :
    IsName ("cfg-gen-" ++ name) where
  notEmpty := by
    intro same
    have lengths := congrArg (·.toList.length) same
    simp at lengths
  notPoint := by
    intro same
    have lengths := congrArg (·.toList.length) same
    simp at lengths
  notTwoPoints := by
    intro same
    have lengths := congrArg (·.toList.length) same
    simp at lengths
  noSlash := by
    rw [String.toList_append, List.mem_append, not_or]
    exact ⟨by decide, isName.noSlash⟩
  noNull := by
    rw [holdsNull_append, isName.noNull]
    decide

/-- A scratch directory, and what stood in the tree before it was made. -/
structure ScratchDirectory (machine : Machine) (old : FileTree) where
  site : Site machine.directory old
  /-- The number of its name. -/
  number : Nat
  fresh : site.Fresh (site.path ["cfg-gen-" ++ machine.names number])
  usable : site.Usable ["cfg-gen-" ++ machine.names number]
  handed : FileWork.holdsNull (site.path ["cfg-gen-" ++ machine.names number]).text = false

namespace ScratchDirectory

variable {machine : Machine} {old tree after : FileTree} {location : Location}
variable (scratch : ScratchDirectory machine old)

/-- The name of the scratch directory. -/
def name : String :=
  "cfg-gen-" ++ machine.names scratch.number

/-- The path of the scratch directory. -/
def path : Path :=
  scratch.site.path [scratch.name]

/-- The place of the scratch directory. -/
def place : Location :=
  scratch.site.place [scratch.name]

/-- The scratch directory stands, and whatever else is new in the tree lies in it. -/
structure Holds (tree : FileTree) : Prop where
  residue : scratch.site.Residue [] [] [[scratch.name]] tree
  there : tree.isDirectory scratch.place = true

variable {scratch}

/-- The scratch directory is not the root. -/
theorem place_ne_nil : scratch.place ≠ [] :=
  List.cons_ne_nil _ _

/-- Where the scratch directory stands, there was nothing. -/
theorem free : old.find? scratch.place = none := by
  obtain ⟨parts, -, -, same, free⟩ := scratch.fresh
  cases Site.path_injective same
  exact free

/-- Nothing was there in the place of the scratch directory or below it. -/
theorem free_of_suffix (inside : scratch.place <:+ location) :
    old.find? location = none :=
  scratch.site.grounded.free_of_suffix free inside

/-- The path of the scratch directory leads there, whatever else is new. -/
theorem resolve_path
    (within : old.Within tree)
    (grounded : tree.Grounded)
    (there : tree.isDirectory scratch.place = true) :
    tree.resolve machine.directory scratch.path = .ok scratch.place := by
  obtain ⟨parts, some, downward, same, -⟩ := scratch.fresh
  cases Site.path_injective same
  exact Site.resolve_eq_place_of_contains within grounded some downward scratch.usable
    (contains_of_isDirectory there)

/-- Right after the scratch directory was made, there is nothing else that is new. -/
theorem holds_made (above : old.isDirectory scratch.site.base = true) :
    scratch.Holds (old.insert scratch.place .directory) where
  residue := by
    have unchanged : scratch.site.Residue [] [] [[scratch.name]] old := by
      refine .refl scratch.site nofun fun parts member => ?_
      rw [List.mem_singleton.1 member]
      exact scratch.fresh
    refine unchanged.insert free above ?_ (.staging (List.mem_singleton_self _) scratch.usable)
    rw [FileTree.isDirectory, free]
    rfl
  there := by
    rw [isDirectory_iff, find?_insert_below place_ne_nil, if_pos rfl]

/-- Under a name that was given, a free place that is reached is one for a scratch directory. -/
theorem exists_of_free
    {anchor : Anchor}
    {known : List String}
    {number : Nat}
    (isName : Path.IsName ("cfg-gen-" ++ machine.names number))
    (grounded : old.Grounded)
    (handed : FileWork.holdsNull
      (Path.text ⟨anchor, known ++ ["cfg-gen-" ++ machine.names number]⟩) = false)
    (leads : old.resolve machine.directory
      ⟨anchor, known ++ ["cfg-gen-" ++ machine.names number]⟩ = .ok location)
    (free : old.find? location = none) :
    ∃ scratch : ScratchDirectory machine old,
      scratch.number = number ∧
        scratch.path = ⟨anchor, known ++ ["cfg-gen-" ++ machine.names number]⟩ ∧
        scratch.place = location ∧
        old.isDirectory scratch.site.base = true := by
  have short : ¬ Work.pathLimit <
      (Path.text ⟨anchor, known ++ ["cfg-gen-" ++ machine.names number]⟩).utf8ByteSize := by
    intro long
    unfold FileTree.resolve at leads
    rw [if_pos long] at leads
    cases leads
  have way := walk_of_resolve leads
  rw [walk_append] at way
  cases reached : old.walk (if anchor = .relative then machine.directory else []) known with
  | error cause =>
      rw [reached] at way
      cases way
  | ok base =>
      rw [reached] at way
      have plain : ".." ∉ ["cfg-gen-" ++ machine.names number] := fun member =>
        isName.notTwoPoints (List.mem_singleton.1 member).symm
      obtain ⟨rfl, names, above⟩ := walk_eq_ok_of_plain plain way
      have isDirectory : old.isDirectory base = true := above (by simp)
      let site : Site machine.directory old := {
        anchor
        known
        base
        grounded
        leads := reached
        holds := contains_of_isDirectory isDirectory }
      exact ⟨{
        site
        number
        fresh := ⟨_, List.cons_ne_nil _ _, fun _ => plain, rfl, free⟩
        usable := ⟨Nat.not_lt.1 short, names⟩
        handed }, rfl, rfl, rfl, isDirectory⟩

/-- Something is put into a directory in the scratch directory. -/
theorem Holds.insert
    {entry : Entry}
    (holds : scratch.Holds tree)
    (inside : scratch.place <:+ location)
    (below : location ≠ scratch.place)
    (above : tree.isDirectory location.tail = true)
    (noDirectory : tree.isDirectory location = false) :
    scratch.Holds (tree.insert location entry) where
  residue := holds.residue.insert (free_of_suffix inside) above noDirectory
    (.staged (List.mem_singleton_self _) inside below)
  there := by
    have notRoot : location ≠ [] := by
      rintro rfl
      exact place_ne_nil (List.suffix_nil.1 inside)
    rw [isDirectory_iff, find?_insert_below notRoot, if_neg below.symm]
    exact isDirectory_iff.1 holds.there

/-- What was there before is there still. -/
theorem Holds.within (holds : scratch.Holds tree) : old.Within tree :=
  holds.residue.within

/-- The tree stands in directories. -/
theorem Holds.grounded (holds : scratch.Holds tree) : tree.Grounded :=
  holds.residue.grounded

/-- The same holds of a tree that is the same. -/
theorem Holds.of_same (holds : scratch.Holds tree) (same : tree.Same after) :
    scratch.Holds after where
  residue := {
    within := fun location entry found =>
      (same location).trans (holds.within location entry found)
    grounded := same.grounded holds.grounded
    freshCreated := nofun
    freshMoved := nofun
    freshStaging := holds.residue.freshStaging
    accounted := fun location entry found before =>
      holds.residue.accounted location entry ((same location).symm.trans found) before }
  there := (same.isDirectory_eq _).trans holds.there

/-- What is new lies in the scratch directory. -/
theorem Holds.inside
    {entry : Entry}
    (holds : scratch.Holds tree)
    (found : tree.find? location = some entry)
    (before : old.find? location = none) :
    scratch.place <:+ location := by
  cases holds.residue.accounted location entry found before with
  | created listed => cases listed
  | moved listed => cases listed
  | staging listed =>
      cases List.mem_singleton.1 listed
      exact List.suffix_refl _
  | staged listed inside =>
      cases List.mem_singleton.1 listed
      exact inside

/-- Discarding the scratch directory leaves the tree as it was. -/
theorem Holds.discard
    {workspace : Workspace}
    (holds : scratch.Holds workspace.tree) :
    old.Same ((Work.discardTree scratch.path).perform machine workspace).2.tree :=
  (holds.residue.discardTree rfl).same

/-- Without the scratch directory, what was there before it is there still. -/
theorem Holds.within_prune
    (holds : scratch.Holds tree)
    (kept : tree.Within after) :
    old.Within (after.prune scratch.place) := by
  intro location entry found
  rw [find?_prune_below place_ne_nil, if_neg]
  · exact kept location entry (holds.within location entry found)
  · intro inside
    cases found.symm.trans (free_of_suffix inside)

/-- What is new without the scratch directory is new beside it. -/
theorem Holds.new_of_prune
    {entry : Entry}
    (holds : scratch.Holds tree)
    (found : (after.prune scratch.place).find? location = some entry)
    (before : old.find? location = none) :
    after.find? location = some entry ∧ tree.find? location = none := by
  rw [find?_prune_below place_ne_nil] at found
  split at found
  · cases found
  · rename_i notInside
    refine ⟨found, ?_⟩
    cases held : tree.find? location with
    | none => rfl
    | some other => exact absurd (holds.inside held before) notInside

/-- The name of the scratch directory is not where a path leads in which it does not occur. -/
theorem name_not_mem_of_resolve
    {path : Path}
    (apart : scratch.name ∉ machine.directory)
    (avoids : scratch.name ∉ path.parts)
    (leads : after.resolve machine.directory path = .ok location) :
    scratch.name ∉ location :=
  fun inside => (mem_of_resolve leads inside).elim apart avoids

/-- Without the scratch directory, a path leads to where it led that does not go through it. -/
theorem resolve_prune_place
    {path : Path}
    (apart : scratch.name ∉ machine.directory)
    (avoids : scratch.name ∉ path.parts)
    (leads : after.resolve machine.directory path = .ok location) :
    (after.prune scratch.place).resolve machine.directory path = .ok location :=
  resolve_prune leads apart avoids

/-- Without the scratch directory, the tree keeps what it has gained elsewhere. -/
theorem Holds.gains
    {output : Path}
    {files : List (Path × String)}
    (holds : scratch.Holds tree)
    (gains : Gains machine.directory output tree after files)
    (apart : scratch.name ∉ machine.directory)
    (avoidsOutput : scratch.name ∉ output.parts)
    (avoids : ∀ file ∈ files, scratch.name ∉ file.1.parts) :
    Gains machine.directory output old (after.prune scratch.place) files where
  kept := holds.within_prune gains.kept
  stored file member := by
    obtain ⟨location, leads, free, found⟩ := gains.stored file member
    have noName := name_not_mem_of_resolve apart (avoids file member) leads
    exact ⟨location, resolve_prune_place apart (avoids file member) leads,
      holds.within.free free, (find?_prune_of_not_mem noName).trans found⟩
  apart := by
    refine gains.apart.imp_of_mem ?_
    intro first second isFirst isSecond differ
    obtain ⟨location, leads, -⟩ := gains.stored first isFirst
    obtain ⟨other, leadsOther, -⟩ := gains.stored second isSecond
    rw [resolve_prune_place apart (avoids first isFirst) leads,
      resolve_prune_place apart (avoids second isSecond) leadsOther]
    rwa [leads, leadsOther] at differ
  nothingElse location entry found before := by
    obtain ⟨foundAfter, free⟩ := holds.new_of_prune found before
    rcases gains.nothingElse location entry foundAfter free with
      ⟨file, member, leads⟩ | ⟨isDirectory, some, ⟨file, member, other, leads, above⟩ |
        ⟨parts, onTheWay, leads⟩⟩
    · exact .inl ⟨file, member, resolve_prune_place apart (avoids file member) leads⟩
    · exact .inr ⟨isDirectory, some, .inl ⟨file, member, other,
        resolve_prune_place apart (avoids file member) leads, above⟩⟩
    · refine .inr ⟨isDirectory, some, .inr ⟨parts, onTheWay,
        resolve_prune_place apart ?_ leads⟩⟩
      exact fun member => avoidsOutput (onTheWay.subset member)

/-- Without the scratch directory, the tree keeps what it has received elsewhere. -/
theorem Holds.receives
    {files : List (Path × String)}
    (holds : scratch.Holds tree)
    (receives : Receives machine.directory tree after files)
    (apart : scratch.name ∉ machine.directory)
    (avoids : ∀ file ∈ files, scratch.name ∉ file.1.parts) :
    Receives machine.directory old (after.prune scratch.place) files := by
  have leads : ∀ file ∈ files, ∀ place,
      after.resolve machine.directory file.1 = .ok place →
        (after.prune scratch.place).resolve machine.directory file.1 = .ok place :=
    fun file member place reached => resolve_prune_place apart (avoids file member) reached
  refine { kept := holds.within_prune receives.kept, stored := ?_, apart := ?_, nothingElse := ?_ }
  · intro file member
    obtain ⟨location, reached, free, found, above⟩ := receives.stored file member
    have noName := name_not_mem_of_resolve apart (avoids file member) reached
    refine ⟨location, leads file member location reached, holds.within.free free, ?_, ?_⟩
    · exact (find?_prune_of_not_mem noName).trans found
    · intro place upward below
      rw [isDirectory_iff]
      exact (find?_prune_of_not_mem fun inside => noName (upward.subset inside)).trans
        (isDirectory_iff.1 (above place upward below))
  · refine receives.apart.imp_of_mem ?_
    intro first second isFirst isSecond differ
    obtain ⟨location, reached, -⟩ := receives.stored first isFirst
    obtain ⟨other, reachedOther, -⟩ := receives.stored second isSecond
    rw [leads first isFirst location reached, leads second isSecond other reachedOther]
    rwa [reached, reachedOther] at differ
  · intro location entry found before
    obtain ⟨foundAfter, free⟩ := holds.new_of_prune found before
    obtain ⟨file, member, place, reached, rest⟩ :=
      receives.nothingElse location entry foundAfter free
    exact ⟨file, member, place, leads file member place reached, rest⟩

/-- The path of a scratch directory is spent once its number is. -/
theorem unreserved_path
    {parent : Path}
    {first later : Nat}
    (apart : machine.NamesApart)
    (unreserved : parent.Unreserved machine first)
    (isPath : scratch.path = parent.child scratch.name)
    (further : first ≤ later)
    (numbered : scratch.number < later) :
    scratch.path.Unreserved machine later := by
  rw [isPath]
  exact (unreserved.of_le further).child (apart.isName scratch.number).scratch
    ((apart.spent_scratch scratch.number).of_le numbered)

variable (scratch)

/-- A tidy workspace in which everything new lies in the scratch directory. -/
structure Contains (first : Nat) (workspace : Workspace) : Prop where
  tidy : workspace.Tidy machine first
  holds : scratch.Holds workspace.tree

variable {scratch}

/-- Anything may be put where a path leads that goes on behind the scratch directory. -/
theorem admits
    {first : Nat}
    {parts : List String}
    (below : parts ≠ [])
    (plain : ".." ∉ parts)
    (unreserved : (scratch.site.path (scratch.name :: parts)).Unreserved machine first) :
    Admits machine (scratch.Contains first) (scratch.site.path (scratch.name :: parts)) where
  ignores same named contains := {
    tidy := contains.tidy.of_tree_eq same (Nat.le_of_eq named.symm)
    holds := same ▸ contains.holds }
  insert contains handed leads noDirectory changed named := {
    tidy := (Workspace.Tidy.admits unreserved).insert contains.tidy handed leads noDirectory
      changed named
    holds := by
      obtain ⟨others, -, downward, same, -⟩ := scratch.fresh
      cases Site.path_injective same
      obtain ⟨rfl, -, above⟩ := scratch.site.eq_place_of_resolve contains.holds.within
        (List.cons_ne_nil _ _) (downward.append plain) leads
      rw [changed]
      refine contains.holds.insert ?_ ?_ above noDirectory
      · exact Site.place_suffix_iff.2 (List.prefix_append [scratch.name] parts)
      · exact fun same => below (List.cons.inj (Site.place_injective same)).2 }

end ScratchDirectory

namespace Scratch

variable {machine : Machine}

/-- The first new name that is not taken. -/
theorem make_cases
    (apart : machine.NamesApart)
    (directory : String)
    (attempts : Nat)
    (workspace : Workspace) :
    let after := (make directory attempts).run.perform machine workspace
    (∃ failure,
      after.1 = .error failure ∧
        after.2.tree = workspace.tree ∧
        workspace.named ≤ after.2.named) ∨
      ∃ number location,
        let path := (Path.ofText directory).child ("cfg-gen-" ++ machine.names number)
        workspace.named ≤ number ∧
          after.2.named = number + 1 ∧
          after.1 = .ok path ∧
          FileWork.holdsNull path.text = false ∧
          workspace.tree.resolve machine.directory path = .ok location ∧
          workspace.tree.find? location = none ∧
          after.2.tree = workspace.tree.insert location .directory := by
  induction attempts generalizing workspace with
  | zero => exact .inl ⟨_, rfl, rfl, Nat.le_refl _⟩
  | succ attempts inductionHypothesis =>
      intro after
      have isName := (apart.isName workspace.named).scratch
      have isPath := Path.ofText_below isName directory
      have shape : after = _ := perform_run_bind _ _ machine workspace
      simp only [perform_run_lift, Work.newName, perform_bind, perform_read, perform_modifyGet,
        perform_run_bind] at shape
      have some : (Path.ofText (below directory
          ("cfg-gen-" ++ machine.names workspace.named))).parts ≠ [] := by
        rw [isPath, Path.child_isName isName]
        simp
      obtain ⟨named, cases⟩ := FileWork.makeDirectoryAs_cases machine
        { workspace with named := workspace.named + 1 } some
      rcases cases with ⟨failure, failed, same⟩ | ⟨location, done, handed, leads, free, made⟩
      · rw [failed] at shape
        simp only at shape
        split at shape
        · generalize (FileWork.makeDirectoryAs (below directory
              ("cfg-gen-" ++ machine.names workspace.named)) _).run.perform machine
                { workspace with named := workspace.named + 1 } = tried at *
          have next : workspace.named ≤ tried.2.named := named ▸ Nat.le_succ _
          rw [shape]
          rcases inductionHypothesis tried.2 with
            ⟨again, fails, unchanged, further⟩ | ⟨number, location, further, rest⟩
          · exact .inl ⟨again, fails, unchanged.trans same, Nat.le_trans next further⟩
          · rw [same] at rest
            exact .inr ⟨number, location, Nat.le_trans next further, rest⟩
        · refine .inl ⟨failure, ?_⟩
          rw [shape]
          exact ⟨rfl, same, by simp [named]⟩
      · rw [done] at shape
        rw [isPath] at handed leads
        refine .inr ⟨workspace.named, location, Nat.le_refl _, ?_⟩
        rw [shape]
        exact ⟨named, congrArg Except.ok isPath, handed, leads, free, made⟩

/-- A scratch directory is made, or nothing is. -/
theorem make_gives
    (apart : machine.NamesApart)
    (directory : String)
    (attempts : Nat)
    {workspace : Workspace}
    (grounded : workspace.tree.Grounded) :
    let after := (make directory attempts).run.perform machine workspace
    (∃ failure,
      after.1 = .error failure ∧
        after.2.tree = workspace.tree ∧
        workspace.named ≤ after.2.named) ∨
      ∃ scratch : ScratchDirectory machine workspace.tree,
        workspace.named ≤ scratch.number ∧
          after.2.named = scratch.number + 1 ∧
          after.1 = .ok scratch.path ∧
          scratch.path = (Path.ofText directory).child scratch.name ∧
          scratch.Holds after.2.tree ∧
          after.2.tree = workspace.tree.insert scratch.place .directory := by
  intro after
  rcases make_cases apart directory attempts workspace with
    fails | ⟨number, location, begun, named, given, handed, leads, free, made⟩
  · exact .inl fails
  · have isName := (apart.isName number).scratch
    rw [Path.child_isName isName] at given handed leads
    obtain ⟨scratch, rfl, isPath, rfl, above⟩ :=
      ScratchDirectory.exists_of_free isName grounded handed leads free
    rw [← isPath] at given
    refine .inr ⟨scratch, begun, named, given, ?_, made ▸ scratch.holds_made above, made⟩
    exact isPath.trans (Path.child_isName isName _).symm

/-- A tidy workspace is tidy with a new scratch directory, whose name is spent. -/
theorem contains_entered
    {first : Nat}
    {before entered : Workspace}
    (apart : machine.NamesApart)
    (tidy : before.Tidy machine first)
    (scratch : ScratchDirectory machine before.tree)
    (begun : before.named ≤ scratch.number)
    (named : entered.named = scratch.number + 1)
    (holds : scratch.Holds entered.tree)
    (made : entered.tree = before.tree.insert scratch.place .directory) :
    scratch.Contains entered.named entered := by
  have later : before.named ≤ entered.named := named ▸ Nat.le_succ_of_le begun
  have further : ({ before with named := entered.named } : Workspace).Tidy machine first :=
    tidy.of_tree_eq rfl later
  refine ⟨(further.insert ScratchDirectory.place_ne_nil ?_ made rfl).current, holds⟩
  intro name member
  rcases List.mem_cons.1 member with rfl | inside
  · rw [named]
    exact apart.spent_scratch scratch.number
  · exact (tidy.spent scratch.site.base scratch.site.holds name inside).of_le later

/--
Work in a scratch directory: none can be made, or the work fails and what it has made is
discarded, or it succeeds and the directory is removed. If it cannot be removed, the
failure tells.
-/
theorem within_cases
    {ε α : Type}
    {first : Nat}
    {workspace : Workspace}
    (apart : machine.NamesApart)
    (tidy : workspace.Tidy machine first)
    (grounded : workspace.tree.Grounded)
    (blame : String → FileFailure → ε)
    (parent : Option String)
    (work : Path → ExceptT ε Work α) :
    let after := (within blame parent work).run.perform machine workspace
    (∃ failure,
      after.1 = .error failure ∧ after.2.tree = workspace.tree ∧ after.2.Tidy machine first) ∨
      ∃ (scratch : ScratchDirectory machine workspace.tree) (entered : Workspace),
        scratch.path = (Path.ofText (parent.getD machine.temporary)).child scratch.name ∧
          workspace.named ≤ scratch.number ∧
          scratch.number < entered.named ∧
          scratch.Contains entered.named entered ∧
          ∃ worked, (work scratch.path).run.perform machine entered = worked ∧
            ((∃ failure, worked.1 = .error failure ∧
              after = (.error failure,
                ((Work.discardTree scratch.path).perform machine worked.2).2)) ∨
              ∃ found, worked.1 = .ok found ∧
                let removed := (FileWork.removeTree scratch.path).run.perform machine worked.2
                (∀ failure, removed.1 = .error failure →
                  after = (.error (blame scratch.path.text failure), removed.2)) ∧
                  (removed.1 = .ok () → after = (.ok found, removed.2))) := by
  intro after
  have shape : after = _ := perform_run_bind _ _ machine workspace
  simp only [perform_run_lift, perform_read, perform_run_bind] at shape
  rcases make_gives apart (parent.getD machine.temporary) attempts grounded with
    ⟨failure, failed, same, later⟩ | ⟨scratch, begun, named, given, isPath, holds, made⟩
  · rw [failed] at shape
    refine .inl ⟨_, congrArg Prod.fst shape, ?_, ?_⟩
    · rw [shape]
      exact same
    · rw [shape]
      exact tidy.of_tree_eq same later
  · rw [given] at shape
    generalize (make (parent.getD machine.temporary) attempts).run.perform machine workspace =
      entered at *
    refine .inr ⟨scratch, entered.2, isPath, begun,
      named ▸ Nat.lt_succ_self _, contains_entered apart tidy scratch begun named holds made,
      _, rfl, ?_⟩
    simp only [perform_run_bind, perform_run_lift] at shape
    generalize (work scratch.path).run.perform machine entered.2 = worked at *
    cases ended : worked.1 with
    | error failure =>
        rw [ended] at shape
        exact .inl ⟨failure, rfl, shape⟩
    | ok found =>
        rw [ended] at shape
        refine .inr ⟨found, rfl, ?_⟩
        simp only [perform_run_bind, perform_run_adapt] at shape
        refine ⟨fun failure failed => ?_, fun done => ?_⟩
        · rw [failed] at shape
          exact shape
        · rw [done] at shape
          exact shape

end Scratch

end GrammarCorpus
