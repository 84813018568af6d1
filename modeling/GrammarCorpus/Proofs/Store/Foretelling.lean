import GrammarCorpus.Proofs.Files.Upward
import GrammarCorpus.Proofs.Store.Missing

namespace GrammarCorpus

/-!
# What the missing directories foretell

The list of missing directories is taken before any is made, and it is all that is known of
them when they have to be taken back. It foretells what making the directories of a path
adds: all that is listed if it succeeds, and nothing else in any case. So taking back what is
listed, the deepest first, leaves the tree as it was, however far making them had come, if
nothing was put into them.
-/

open FileTree

/-- A tree that holds the old one, and otherwise only directories that are listed. -/
structure FileTree.Supplements
    (directory : Location)
    (listed : List Path)
    (before after : FileTree) : Prop where
  within : before.Within after
  grounded : after.Grounded
  added : ∀ location entry,
    after.find? location = some entry →
      before.find? location = none →
      entry = .directory ∧
        ∃ path ∈ listed, after.resolve directory path = .ok location

namespace FileWork

/-- What a list of missing directories says about making the directories of a path. -/
structure Foretells
    (machine : Machine)
    (workspace : Workspace)
    (path : Path)
    (listed : List Path) : Prop where
  /-- The deepest is listed first, and none is listed twice. -/
  deepestFirst : listed.Pairwise fun first second =>
    second.parts.length < first.parts.length
  /-- However far making them comes, only directories that are listed are added. -/
  supplements :
    Supplements machine.directory listed workspace.tree
      ((makeDirectories path).run.perform machine workspace).2.tree
  /-- If making them succeeds, all that are listed are added. -/
  complete :
    let made := (makeDirectories path).run.perform machine workspace
    made.1 = .ok () →
      ∀ other ∈ listed, ∃ location,
        made.2.tree.resolve machine.directory other = .ok location ∧
          workspace.tree.find? location = none ∧
          made.2.tree.isDirectory location = true
  /-- If nothing else was added, taking back those that are listed leaves the old tree. -/
  restores : ∀ later : Workspace,
    Supplements machine.directory listed workspace.tree later.tree →
      workspace.tree.Same
        (((Store.deepestFirst listed).forM Work.discardDirectory).perform machine later).2.tree

end FileWork

variable {directory : Location} {old tree : FileTree} {path : Path} {listed : List Path}

/-- A path that does not turn back does so from no missing place either. -/
theorem FileTree.straight_of_plain (plain : ".." ∉ path.parts) :
    tree.Straight directory path := by
  intro before after split
  rw [split] at plain
  exact absurd (List.mem_append_right before List.mem_cons_self) plain

namespace Site

variable {site : Site directory old} {parts taken : List String}

/-- What supplements a tree with fresh directories is accounted for. -/
theorem residue_of_supplements
    (fresh : ∀ path ∈ listed, site.Fresh path)
    (supplements : Supplements directory listed old tree) :
    site.Residue listed [] [] tree where
  within := supplements.within
  grounded := supplements.grounded
  freshCreated := fresh
  freshMoved := nofun
  freshStaging := nofun
  accounted := by
    intro location entry found free
    obtain ⟨rfl, path, isListed, leads⟩ := supplements.added location entry found free
    obtain ⟨parts, some, downward, rfl, -⟩ := fresh path isListed
    obtain ⟨rfl, usable, -⟩ := site.eq_place_of_resolve supplements.within some downward leads
    exact .created isListed usable

namespace Residue

/-- Where directories account for all that is new, they supplement the tree. -/
theorem supplements (residue : site.Residue listed [] [] tree) :
    Supplements directory listed old tree where
  within := residue.within
  grounded := residue.grounded
  added := by
    intro location entry found free
    obtain ⟨parts, isListed, usable, rfl, rfl⟩ :=
      (residue.accounted location entry found free).eq_directory
    refine ⟨rfl, _, isListed, ?_⟩
    exact residue.resolve_eq_place (residue.freshCreated _ isListed) usable
      (contains_iff.2 ⟨_, found⟩)

/-- On the way to a new directory, there are new directories. -/
theorem exists_of_leadsToDirectory
    (residue : site.Residue listed [] [] tree)
    (downward : site.Downward parts)
    (leads : tree.LeadsToDirectory directory (site.path parts))
    (some : taken ≠ [])
    (inside : taken <+: parts)
    (free : old.find? (site.place taken) = none) :
    ∃ location,
      tree.resolve directory (site.path taken) = .ok location ∧
        old.find? location = none ∧
        tree.isDirectory location = true := by
  have someParts : parts ≠ [] := by
    rintro rfl
    exact some (List.prefix_nil.1 inside)
  obtain ⟨location, ends, isDirectory⟩ := leads
  obtain ⟨rfl, usable, -⟩ :=
    site.eq_place_of_resolve residue.within someParts downward ends
  have holds : tree.contains (site.place taken) = true :=
    residue.grounded.contains_of_suffix (contains_of_isDirectory isDirectory)
      (place_suffix_iff.2 inside)
  obtain ⟨entry, found⟩ := contains_iff.1 holds
  obtain ⟨others, -, usableTaken, same, rfl⟩ :=
    (residue.accounted _ entry found free).eq_directory
  cases place_injective same
  refine ⟨_, ?_, free, isDirectory_iff.2 found⟩
  exact resolve_eq_place_of_contains residue.within residue.grounded some
    (downward.of_beginning inside) usableTaken holds

end Residue

end Site

namespace FileWork

variable {machine : Machine} {workspace : Workspace}

/-- A list of missing directories foretells what making them adds, and how to take it back. -/
theorem foretells_of_missing
    (grounded : workspace.tree.Grounded)
    (nameable : workspace.tree.Nameable)
    (home : workspace.tree.isDirectory machine.directory = true)
    (plain : ".." ∉ path.parts)
    (found : ((missing path).run.perform machine workspace).1 = .ok listed) :
    Foretells machine workspace path listed := by
  obtain ⟨site, rest, rfl, downward, -, free, members⟩ :=
    exists_site grounded nameable home (straight_of_plain plain) found
  have fresh : ∀ path ∈ listed, site.Fresh path := by
    intro path isListed
    obtain ⟨taken, some, inside, rfl⟩ := (members path).1 isListed
    exact ⟨taken, some, downward.of_beginning inside, rfl, free taken some inside⟩
  obtain ⟨furnished, leads⟩ := Furnishes.makeDirectories machine (site.path rest) workspace
  have before : site.Residue listed [] [] workspace.tree := .refl site fresh nofun
  have residue := before.furnish furnished downward
    fun taken some inside _ => .inl ((members _).2 ⟨taken, some, inside, rfl⟩)
  refine {
    deepestFirst := ?_
    supplements := residue.supplements
    complete := fun made other isListed => ?_
    restores := fun later supplements => ?_ }
  · rw [perform_missing nameable home plain] at found
    split at found
    · cases found
    · cases found
      exact (Path.pairwise_upward _).filter _
  · obtain ⟨taken, some, inside, rfl⟩ := (members other).1 isListed
    exact residue.exists_of_leadsToDirectory downward (leads made) some inside
      (free taken some inside)
  · exact (Site.residue_of_supplements fresh supplements).forM_deepestFirst rfl

/--
The missing directories are the paths on the way up that lead nowhere, the deepest first,
unless one is too long to be looked at. They foretell what making them adds, also where that
fails: it does so if the path cannot be handed over or is too long, if it leads to a file or a
path above it does, or if a call meets a fault.
-/
theorem missing_foretells
    (grounded : workspace.tree.Grounded)
    (nameable : workspace.tree.Nameable)
    (home : workspace.tree.isDirectory machine.directory = true)
    (plain : ".." ∉ path.parts) :
    (missing path).run.perform machine workspace =
        (match path.upward.find? (workspace.tree.refuses machine.directory) with
          | some refused => .error (.failed { cause := .nameTooLong, path := refused.text })
          | none =>
              .ok (path.upward.filter fun other =>
                !workspace.tree.reaches machine.directory other), workspace) ∧
      (∀ listed,
        ((missing path).run.perform machine workspace).1 = .ok listed →
          Foretells machine workspace path listed) ∧
      ((∀ call, machine.faults call = none) →
        (((makeDirectories path).run.perform machine workspace).1 = .ok () ↔
          holdsNull path.text = false ∧
            path.IsShort ∧
            ∀ other ∈ path.upward,
              ¬ workspace.tree.EndsAtFile machine.directory other)) :=
  ⟨perform_missing nameable home plain,
    fun _ found => foretells_of_missing grounded nameable home plain found,
    fun faultless => makeDirectories_eq_ok_iff faultless grounded home plain⟩

/-- Below a directory that is there, two are foretold, made and taken back. -/
theorem missing_foretells_of_branch :
    let workspace : Workspace := {
      tree := (FileTree.empty.insert ["a"] .directory).insert ["f"] (.file .empty) }
    let path : Path := ⟨.relative, ["a", "b", "c"]⟩
    let listed : List Path := [path, ⟨.relative, ["a", "b"]⟩]
    (workspace.tree.Grounded ∧
      workspace.tree.Nameable ∧
      workspace.tree.isDirectory Machine.calm.directory = true ∧
      ".." ∉ path.parts) ∧
    (missing path).run.perform .calm workspace = (.ok listed, workspace) ∧
      ((makeDirectories path).run.perform .calm workspace).1 = .ok () ∧
      Foretells .calm workspace path listed := by
  intro workspace path listed
  have grounded : workspace.tree.Grounded := grounded_of_entries (by decide)
  have nameable : workspace.tree.Nameable := nameable_of_entries (by decide)
  have home : workspace.tree.isDirectory Machine.calm.directory = true := rfl
  have plain : ".." ∉ path.parts := by decide
  obtain ⟨performed, foretells, succeeds⟩ :=
    @missing_foretells path Machine.calm workspace grounded nameable home plain
  have found : (missing path).run.perform .calm workspace = (.ok listed, workspace) := by
    have looked : path.upward.find?
        (workspace.tree.refuses Machine.calm.directory) = none := by decide +kernel
    have missed : (path.upward.filter fun other =>
        !workspace.tree.reaches Machine.calm.directory other) = listed := by decide +kernel
    rw [performed, looked, missed]
  refine ⟨⟨grounded, nameable, home, plain⟩, found, ?_, foretells listed (by rw [found])⟩
  exact (succeeds fun _ => rfl).2 ⟨by decide +kernel, by decide +kernel, by decide +kernel⟩

/--
A path that is too long to be looked at is not listed, though nothing stands there: it is an
error to look for what is missing.
-/
theorem missing_fails_of_longName :
    let workspace : Workspace := { tree := .empty }
    let path : Path := ⟨.relative, [String.ofList (List.replicate 256 'n')]⟩
    workspace.tree.Grounded ∧
      ".." ∉ path.parts ∧
      workspace.tree.reaches Machine.calm.directory path = false ∧
      ((missing path).run.perform .calm workspace).1 =
        .error (.failed { cause := .nameTooLong, path := path.text }) := by
  intro workspace path
  have nameable : workspace.tree.Nameable := nameable_of_entries (by decide)
  have plain : ".." ∉ path.parts := by decide +kernel
  have handed : holdsNull path.text = false := by
    have letters := Path.holdsNull_replicate (show 'n' ≠ Char.ofNat 0 by decide) 256
    rw [Path.holdsNull_text, List.any_cons, letters]
    rfl
  have long : ¬ Short (String.ofList (List.replicate 256 'n')) := by
    rw [Short, Path.utf8ByteSize_replicate]
    decide
  have refused : workspace.tree.refuses Machine.calm.directory path = true :=
    (refuses_iff plain).2
      ⟨handed, .inr ⟨[], _, List.prefix_rfl, start_leadsToDirectory rfl .relative, long⟩⟩
  refine ⟨grounded_of_entries (by decide), plain, ?_, ?_⟩
  · cases reached : workspace.tree.reaches Machine.calm.directory path with
    | false => rfl
    | true => cases (refuses_of_reaches reached).symm.trans refused
  · rw [perform_missing nameable rfl plain,
      show path.upward = path :: _ from Path.upward_cons .relative _ [],
      List.find?_cons_of_pos refused]

end FileWork

end GrammarCorpus
