import GrammarCorpus.Corpus.Store
import GrammarCorpus.Proofs.Files.Discard
import GrammarCorpus.Proofs.Store.Site
import GrammarCorpus.Proofs.Work

namespace GrammarCorpus

/-!
# What a ledger accounts for

While files are staged and moved, the tree holds what it held before and more, and
the ledger accounts for all that is new: a directory that it lists as created, a file
that it lists as moved, or something in the staging directory. Not everything that is
listed need be there.

Taking back what is listed, item by item, keeps the rest accounted for. Directories
are taken back the deepest first, so each is empty when its turn comes. At the end
nothing is new any more.
-/

open FileTree

variable {directory : Location} {old tree : FileTree}

namespace Site

/-- An entry that is new behind the site, and why it is there. -/
inductive Accounted
    (site : Site directory old)
    (created moved : List Path)
    (staging : List (List String)) :
    Location → Entry → Prop
  | created
      {parts : List String}
      (listed : site.path parts ∈ created)
      (usable : site.Usable parts) :
      Accounted site created moved staging (site.place parts) .directory
  | moved
      {parts : List String}
      {content : ByteArray}
      (listed : site.path parts ∈ moved)
      (usable : site.Usable parts) :
      Accounted site created moved staging (site.place parts) (.file content)
  | staging
      {parts : List String}
      (listed : parts ∈ staging)
      (usable : site.Usable parts) :
      Accounted site created moved staging (site.place parts) .directory
  | staged
      {parts : List String}
      {location : Location}
      {entry : Entry}
      (listed : parts ∈ staging)
      (inside : site.place parts <:+ location)
      (below : location ≠ site.place parts) :
      Accounted site created moved staging location entry

/-- What is accounted for stays so if more is listed. -/
theorem Accounted.mono
    {site : Site directory old}
    {created moved moreCreated moreMoved : List Path}
    {staging : List (List String)}
    {location : Location}
    {entry : Entry}
    (accounted : site.Accounted created moved staging location entry)
    (listsCreated : created ⊆ moreCreated)
    (listsMoved : moved ⊆ moreMoved) :
    site.Accounted moreCreated moreMoved staging location entry := by
  cases accounted with
  | created listed usable => exact .created (listsCreated listed) usable
  | moved listed usable => exact .moved (listsMoved listed) usable
  | staging listed usable => exact .staging listed usable
  | staged listed inside below => exact .staged listed inside below

/-- What stands at the staging directory itself, unless a file was moved there. -/
theorem Accounted.at_staging
    {site : Site directory old}
    {created moved : List Path}
    {parts : List String}
    {location : Location}
    {entry : Entry}
    (accounted : site.Accounted created moved [parts] location entry)
    (here : location = site.place parts) :
    entry = .directory ∧ site.Usable parts ∨
      entry ≠ .directory ∧ site.path parts ∈ moved := by
  cases accounted with
  | created listed usable =>
      cases place_injective here
      exact .inl ⟨rfl, usable⟩
  | moved listed =>
      cases place_injective here
      exact .inr ⟨nofun, listed⟩
  | staging listed usable =>
      cases place_injective here
      exact .inl ⟨rfl, usable⟩
  | staged listed inside below =>
      cases List.mem_singleton.1 listed
      exact absurd here below

/-- Once the staging directory is gone, all that is new has a usable path. -/
theorem Accounted.usable
    {site : Site directory old}
    {created moved : List Path}
    {parts : List String}
    {location : Location}
    {entry : Entry}
    (accounted : site.Accounted created moved [] location entry)
    (here : location = site.place parts) :
    site.Usable parts := by
  cases accounted with
  | created listed usable =>
      cases place_injective here
      exact usable
  | moved listed usable =>
      cases place_injective here
      exact usable
  | staging listed => cases listed
  | staged listed => cases listed

/-- Once all moved files and the staging directory are gone, directories are left. -/
theorem Accounted.eq_directory
    {site : Site directory old}
    {created : List Path}
    {location : Location}
    {entry : Entry}
    (accounted : site.Accounted created [] [] location entry) :
    ∃ parts,
      site.path parts ∈ created ∧
        site.Usable parts ∧
        location = site.place parts ∧
        entry = .directory := by
  cases accounted with
  | created listed usable => exact ⟨_, listed, usable, rfl, rfl⟩
  | moved listed => cases listed
  | staging listed => cases listed
  | staged listed => cases listed

/-- A tree that holds the old one, and otherwise only what is accounted for. -/
structure Residue
    (site : Site directory old)
    (created moved : List Path)
    (staging : List (List String))
    (tree : FileTree) : Prop where
  within : old.Within tree
  grounded : tree.Grounded
  freshCreated : ∀ path ∈ created, site.Fresh path
  freshMoved : ∀ path ∈ moved, site.Fresh path
  freshStaging : ∀ parts ∈ staging, site.Fresh (site.path parts)
  accounted : ∀ location entry,
    tree.find? location = some entry →
      old.find? location = none →
      site.Accounted created moved staging location entry

namespace Residue

variable {site : Site directory old}
variable {created moved rest : List Path} {staging : List (List String)}
variable {path : Path} {parts : List String} {location : Location}

/-- A tree accounts for itself. -/
theorem refl
    (site : Site directory old)
    (freshCreated : ∀ path ∈ created, site.Fresh path)
    (freshStaging : ∀ parts ∈ staging, site.Fresh (site.path parts)) :
    site.Residue created [] staging old where
  within := .refl old
  grounded := site.grounded
  freshCreated := freshCreated
  freshMoved := nofun
  freshStaging := freshStaging
  accounted := by
    intro location entry found free
    cases found.symm.trans free

/-- Where nothing is listed, nothing is new. -/
theorem same (residue : site.Residue [] [] [] tree) : old.Same tree := by
  refine residue.within.same ?_
  intro location entry found
  cases before : old.find? location with
  | some other =>
      rw [← residue.within location other before, found]
  | none =>
      cases residue.accounted location entry found before with
      | created listed => cases listed
      | moved listed => cases listed
      | staging listed => cases listed
      | staged listed => cases listed

/-- More may be listed than is there, in any order. -/
theorem relist
    {moreCreated moreMoved : List Path}
    (residue : site.Residue created moved staging tree)
    (listsCreated : created ⊆ moreCreated)
    (listsMoved : moved ⊆ moreMoved)
    (freshCreated : ∀ path ∈ moreCreated, site.Fresh path)
    (freshMoved : ∀ path ∈ moreMoved, site.Fresh path) :
    site.Residue moreCreated moreMoved staging tree where
  within := residue.within
  grounded := residue.grounded
  freshCreated := freshCreated
  freshMoved := freshMoved
  freshStaging := residue.freshStaging
  accounted := fun location entry found before =>
    (residue.accounted location entry found before).mono listsCreated listsMoved

/-- A new directory of the tree leads to its place. -/
theorem resolve_eq_place
    (residue : site.Residue created moved staging tree)
    (fresh : site.Fresh (site.path parts))
    (usable : site.Usable parts)
    (holds : tree.contains (site.place parts) = true) :
    tree.resolve directory (site.path parts) = .ok (site.place parts) := by
  obtain ⟨others, some, downward, same, -⟩ := fresh
  cases path_injective same
  exact resolve_eq_place_of_contains residue.within residue.grounded some downward usable holds

/-- A path of the corpus leads to its own place or nowhere. -/
theorem eq_place_of_resolve
    (residue : site.Residue created moved staging tree)
    (fresh : site.Fresh (site.path parts))
    (leads : tree.resolve directory (site.path parts) = .ok location) :
    location = site.place parts ∧ location ≠ [] ∧ old.find? location = none := by
  obtain ⟨others, some, downward, same, free⟩ := fresh
  cases path_injective same
  obtain ⟨rfl, -, -⟩ := site.eq_place_of_resolve residue.within some downward leads
  exact ⟨rfl, place_ne_nil some, free⟩

/-- A location that was free before can be freed again, if nothing is below it. -/
theorem erase
    {fewerCreated fewerMoved : List Path}
    (residue : site.Residue created moved staging tree)
    (lessCreated : fewerCreated ⊆ created)
    (lessMoved : fewerMoved ⊆ moved)
    (free : old.find? location = none)
    (childless : ∀ name, tree.contains (name :: location) = false)
    (below : location ≠ [])
    (accounted : ∀ other entry,
      other ≠ location →
        site.Accounted created moved staging other entry →
        site.Accounted fewerCreated fewerMoved staging other entry) :
    site.Residue fewerCreated fewerMoved staging (tree.erase location) where
  within := within_erase below residue.within free
  grounded := residue.grounded.erase below childless
  freshCreated := fun _ member => residue.freshCreated _ (lessCreated member)
  freshMoved := fun _ member => residue.freshMoved _ (lessMoved member)
  freshStaging := residue.freshStaging
  accounted := by
    intro other entry found before
    rw [find?_erase_below below] at found
    split at found
    · cases found
    · rename_i apart
      exact accounted other entry apart (residue.accounted other entry found before)

/-- A file that was moved is taken back. -/
theorem discardFile
    {machine : Machine}
    {workspace : Workspace}
    (home : machine.directory = directory)
    (residue : site.Residue created (path :: rest) staging workspace.tree) :
    site.Residue created rest staging
      ((Work.discardFile path).perform machine workspace).2.tree := by
  have fresh := residue.freshMoved path List.mem_cons_self
  obtain ⟨parts, -, -, rfl, -⟩ := id fresh
  subst home
  rcases Work.discardFile_cases machine workspace (site.path parts) with
    ⟨location, content, leads, file, erased⟩ | ⟨same, noFile⟩
  · obtain ⟨rfl, below, free⟩ := residue.eq_place_of_resolve fresh leads
    rw [erased]
    refine residue.erase (List.Subset.refl _) (List.subset_cons_self _ _) free
      (residue.grounded.childless_of_file file) below ?_
    rintro other entry apart (⟨listed, usable⟩ | ⟨listed, usable⟩ | ⟨listed, usable⟩ |
      ⟨listed, inside, further⟩)
    · exact .created listed usable
    · rcases List.mem_cons.1 listed with itself | listed
      · cases path_injective itself
        exact absurd rfl apart
      · exact .moved listed usable
    · exact .staging listed usable
    · exact .staged listed inside further
  · rw [same]
    refine { residue with
      freshMoved := fun _ member => residue.freshMoved _ (List.mem_cons_of_mem _ member)
      accounted := ?_ }
    intro other entry found before
    cases residue.accounted other entry found before with
    | created listed usable => exact .created listed usable
    | staging listed usable => exact .staging listed usable
    | staged listed inside further => exact .staged listed inside further
    | moved listed usable =>
        rcases List.mem_cons.1 listed with itself | listed
        · cases path_injective itself
          have leads := residue.resolve_eq_place fresh usable (contains_iff.2 ⟨_, found⟩)
          exact absurd found (noFile _ leads _)
        · exact .moved listed usable

/-- All files that were moved are taken back. -/
theorem forM_discardFile
    {machine : Machine}
    {workspace : Workspace}
    (home : machine.directory = directory)
    (residue : site.Residue created moved staging workspace.tree) :
    site.Residue created [] staging
      ((moved.forM Work.discardFile).perform machine workspace).2.tree := by
  induction moved generalizing workspace with
  | nil => exact residue
  | cons path rest inductionHypothesis =>
      rw [Work.perform_forM_cons_snd]
      exact inductionHypothesis (residue.discardFile home)

/-- The staging directory is removed with all that is in it. -/
theorem prune
    (residue : site.Residue created moved [parts] tree) :
    site.Residue created moved [] (tree.prune (site.place parts)) := by
  obtain ⟨others, some, -, same, free⟩ :=
    residue.freshStaging parts (List.mem_singleton_self parts)
  cases path_injective same
  have below : site.place parts ≠ [] := place_ne_nil some
  refine {
    within := ?_
    grounded := residue.grounded.prune below
    freshCreated := residue.freshCreated
    freshMoved := residue.freshMoved
    freshStaging := nofun
    accounted := ?_ }
  · intro other entry found
    rw [find?_prune_below below, if_neg]
    · exact residue.within other entry found
    · intro inside
      cases found.symm.trans (site.grounded.free_of_suffix free inside)
  · intro other entry found before
    rw [find?_prune_below below] at found
    split at found
    · cases found
    · rename_i outside
      cases residue.accounted other entry found before with
      | created listed usable => exact .created listed usable
      | moved listed usable => exact .moved listed usable
      | staging listed =>
          cases List.mem_singleton.1 listed
          exact absurd (List.suffix_refl _) outside
      | staged listed inside =>
          cases List.mem_singleton.1 listed
          exact absurd inside outside

/-- The staging directory is taken back with all that is in it. -/
theorem discardTree
    {machine : Machine}
    {workspace : Workspace}
    (home : machine.directory = directory)
    (residue : site.Residue created [] [parts] workspace.tree) :
    site.Residue created [] []
      ((Work.discardTree (site.path parts)).perform machine workspace).2.tree := by
  have fresh := residue.freshStaging parts (List.mem_singleton_self parts)
  subst home
  rcases Work.discardTree_cases machine workspace (site.path parts) with
    ⟨location, leads, isDirectory, pruned⟩ | ⟨same, noDirectory⟩
  · obtain ⟨rfl, -, -⟩ := residue.eq_place_of_resolve fresh leads
    rw [pruned]
    exact residue.prune
  · rw [same]
    obtain ⟨others, -, -, itself, free⟩ := id fresh
    cases path_injective itself
    -- Nothing stands at the place, since a directory there would be found by its path.
    have nothing : workspace.tree.find? (site.place parts) = none := by
      cases found : workspace.tree.find? (site.place parts) with
      | none => rfl
      | some entry =>
          obtain ⟨rfl, usable⟩ :=
            ((residue.accounted _ entry found free).at_staging rfl).resolve_right
              fun file => nomatch file.2
          have leads := residue.resolve_eq_place fresh usable (contains_iff.2 ⟨_, found⟩)
          have directory := noDirectory _ leads
          rw [isDirectory_iff.2 found] at directory
          cases directory
    refine { residue with freshStaging := nofun, accounted := ?_ }
    intro other entry found before
    cases residue.accounted other entry found before with
    | created listed usable => exact .created listed usable
    | moved listed usable => exact .moved listed usable
    | staging listed =>
        cases List.mem_singleton.1 listed
        cases found.symm.trans nothing
    | staged listed inside =>
        cases List.mem_singleton.1 listed
        cases found.symm.trans (residue.grounded.free_of_suffix nothing inside)

/-- The deepest of the directories that were made is taken back. -/
theorem discardDirectory
    {machine : Machine}
    {workspace : Workspace}
    (home : machine.directory = directory)
    (residue : site.Residue (path :: rest) [] [] workspace.tree)
    (deepest : ∀ other ∈ rest, other.parts.length ≤ path.parts.length) :
    site.Residue rest [] []
      ((Work.discardDirectory path).perform machine workspace).2.tree := by
  have fresh := residue.freshCreated path List.mem_cons_self
  obtain ⟨parts, -, -, rfl, free⟩ := id fresh
  subst home
  -- Below the deepest directory there is nothing, as it would be deeper still.
  have childless : ∀ name, workspace.tree.contains (name :: site.place parts) = false := by
    intro name
    cases holds : workspace.tree.contains (name :: site.place parts) with
    | false => rfl
    | true =>
        obtain ⟨entry, found⟩ := contains_iff.1 holds
        have before := site.grounded.free_of_suffix free (List.suffix_cons name _)
        obtain ⟨others, listed, -, same, -⟩ :=
          (residue.accounted _ entry found before).eq_directory
        rw [← place_concat] at same
        cases place_injective same
        have shallow : (site.path (parts ++ [name])).parts.length ≤
            (site.path parts).parts.length := by
          rcases List.mem_cons.1 listed with itself | listed
          · exact Nat.le_of_eq (congrArg (·.parts.length) itself)
          · exact deepest _ listed
        simp only [Site.path, List.length_append, List.length_singleton] at shallow
        omega
  rcases Work.discardDirectory_cases machine workspace (site.path parts) with
    ⟨location, leads, below, -, -, erased⟩ | ⟨same, inhabited⟩
  · obtain ⟨rfl, -, -⟩ := residue.eq_place_of_resolve fresh leads
    rw [erased]
    refine residue.erase (List.subset_cons_self _ _) (List.Subset.refl _) free childless
      below ?_
    intro other entry apart accounted
    obtain ⟨others, listed, usable, rfl, rfl⟩ := accounted.eq_directory
    rcases List.mem_cons.1 listed with itself | listed
    · cases path_injective itself
      exact absurd rfl apart
    · exact .created listed usable
  · rw [same]
    refine { residue with
      freshCreated := fun _ member => residue.freshCreated _ (List.mem_cons_of_mem _ member)
      accounted := ?_ }
    intro other entry found before
    obtain ⟨others, listed, usable, rfl, rfl⟩ :=
      (residue.accounted other entry found before).eq_directory
    rcases List.mem_cons.1 listed with itself | listed
    · cases path_injective itself
      have leads := residue.resolve_eq_place fresh usable (contains_iff.2 ⟨_, found⟩)
      obtain ⟨-, below, -⟩ := residue.eq_place_of_resolve fresh leads
      obtain ⟨name, holds⟩ := inhabited _ leads below (isDirectory_iff.2 found)
      rw [childless name] at holds
      cases holds
    · exact .created listed usable

/-- All directories that were made are taken back, the deepest first. -/
theorem forM_discardDirectory
    {machine : Machine}
    {workspace : Workspace}
    (home : machine.directory = directory)
    (residue : site.Residue created [] [] workspace.tree)
    (deepest : created.Pairwise fun first second =>
      second.parts.length ≤ first.parts.length) :
    site.Residue [] [] []
      ((created.forM Work.discardDirectory).perform machine workspace).2.tree := by
  induction created generalizing workspace with
  | nil => exact residue
  | cons path rest inductionHypothesis =>
      rw [Work.perform_forM_cons_snd]
      obtain ⟨deepestFirst, others⟩ := List.pairwise_cons.1 deepest
      exact inductionHypothesis (residue.discardDirectory home deepestFirst) others

end Residue

/-- Directories are put in order, the deepest first. -/
theorem deepestFirst_pairwise (directories : List Path) :
    (Store.deepestFirst directories).Pairwise fun first second =>
      second.parts.length ≤ first.parts.length := by
  unfold Store.deepestFirst
  refine (List.pairwise_mergeSort ?_ ?_ _).imp fun ordered => of_decide_eq_true ordered
  · intro first second third
    simp only [decide_eq_true_eq]
    omega
  · intro first second
    simp only [Bool.or_eq_true, decide_eq_true_eq]
    omega

/-- Putting directories in order keeps all of them. -/
theorem mem_deepestFirst {directories : List Path} {path : Path} :
    path ∈ Store.deepestFirst directories ↔ path ∈ directories := by
  simp [Store.deepestFirst, List.mem_mergeSort]

/-- Where only directories are new, taking back those that are listed leaves the old tree. -/
theorem Residue.forM_deepestFirst
    {site : Site directory old}
    {created : List Path}
    {machine : Machine}
    {workspace : Workspace}
    (home : machine.directory = directory)
    (residue : site.Residue created [] [] workspace.tree) :
    old.Same
      (((Store.deepestFirst created).forM Work.discardDirectory).perform
        machine workspace).2.tree := by
  have ordered := residue.relist (fun _ => mem_deepestFirst.2) (List.Subset.refl _)
    (fun path member => residue.freshCreated path (mem_deepestFirst.1 member)) nofun
  exact (ordered.forM_discardDirectory home (deepestFirst_pairwise _)).same

/-- Taking everything back leaves the old tree. -/
theorem Residue.rollBack
    {site : Site directory old}
    {parts : List String}
    {ledger : Ledger}
    {machine : Machine}
    {workspace : Workspace}
    (home : machine.directory = directory)
    (residue : site.Residue ledger.created ledger.moved [parts] workspace.tree) :
    old.Same
      ((Store.rollBack (site.path parts) ledger).perform machine workspace).2.tree := by
  have withoutFiles := residue.forM_discardFile home
  exact (withoutFiles.discardTree home).forM_deepestFirst home

end Site

end GrammarCorpus
