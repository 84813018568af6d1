import GrammarCorpus.Proofs.Files.Discard
import GrammarCorpus.Proofs.Files.Naming
import GrammarCorpus.Proofs.Keeping
import Mathlib.Data.List.Nodup

namespace GrammarCorpus

/-!
# Upkeep of file trees

A tree is kept as a list of entries, and the names below a location are read off that
list. They are right if no location has two entries, which every change keeps. Together
with that goes what the names in a tree are: none of them is reserved for a new name that
is still to come. A workspace of which both hold is tidy, and it stays so in all work on
paths whose parts are not reserved.
-/

namespace FileTree

variable {tree : FileTree} {location : Location}

/-- No location has two entries. -/
def Distinct (tree : FileTree) : Prop :=
  (tree.entries.map Prod.fst).Nodup

/-- The name that a place has directly below a location. -/
def nameBelow (location place : Location) : Option String :=
  match place with
  | [] => none
  | name :: parent => if parent = location then some name else none

/-- The names below a location are those of the entries there. -/
theorem mem_names {name : String} :
    name ∈ tree.names location ↔ tree.contains (name :: location) = true := by
  have isEntry : name ∈ tree.names location ↔
      ∃ entry ∈ tree.entries, entry.1 = name :: location := by
    simp only [names, List.mem_filterMap]
    constructor
    · rintro ⟨entry, member, found⟩
      refine ⟨entry, member, ?_⟩
      split at found
      · cases found
      · rename_i other parent place
        split at found
        · rename_i same
          cases found
          rw [place, same]
        · cases found
    · rintro ⟨entry, member, place⟩
      exact ⟨entry, member, by simp [place]⟩
  rw [isEntry, ← not_iff_not, Bool.not_eq_true, contains_eq_false_iff]
  simp only [find?, List.lookup_eq_none_iff, bne_iff_ne, not_exists, not_and]
  exact forall₂_congr fun entry _ => not_congr eq_comm

namespace Distinct

variable (distinct : tree.Distinct)

include distinct

/-- The names below a location differ from each other. -/
theorem nodup_names (location : Location) : (tree.names location).Nodup := by
  have places : tree.names location =
      (tree.entries.map Prod.fst).filterMap (nameBelow location) := by
    rw [List.filterMap_map]
    rfl
  rw [places]
  refine List.Nodup.filterMap ?_ distinct
  intro first second name isFirst isSecond
  have whole : ∀ place, name ∈ nameBelow location place → place = name :: location := by
    intro place found
    cases place with
    | nil => cases found
    | cons other parent =>
        simp only [nameBelow, Option.mem_def] at found
        split at found
        · rename_i same
          cases found
          rw [same]
        · cases found
  rw [whole first isFirst, whole second isSecond]

/-- A single location is freed. -/
theorem erase (location : Location) : (tree.erase location).Distinct :=
  List.Nodup.sublist (List.filter_sublist.map _) distinct

/-- A location is freed with all that is below it. -/
theorem prune (location : Location) : (tree.prune location).Distinct :=
  List.Nodup.sublist (List.filter_sublist.map _) distinct

/-- An entry takes the place of what stands at its location. -/
theorem insert (location : Location) (entry : Entry) :
    (tree.insert location entry).Distinct := by
  refine List.nodup_cons.2 ⟨?_, distinct.erase location⟩
  simp [FileTree.erase]

end Distinct

end FileTree

open FileTree

/--
No location of the tree has two entries, and no name in it is reserved. New names are
given from some number on, or a later one.
-/
structure Workspace.Tidy (machine : Machine) (first : Nat) (workspace : Workspace) : Prop where
  distinct : workspace.tree.Distinct
  begun : first ≤ workspace.named
  home : ∀ name ∈ machine.directory, machine.Spent first name
  spent : ∀ location, workspace.tree.contains location = true →
    ∀ name ∈ location, machine.Spent workspace.named name

namespace Workspace.Tidy

variable {machine : Machine} {first : Nat} {before after : Workspace} {location : Location}

/-- What the tree holds stays spent while names are given. -/
theorem of_tree_eq
    (tidy : before.Tidy machine first)
    (same : after.tree = before.tree)
    (named : before.named ≤ after.named) :
    after.Tidy machine first where
  distinct := same ▸ tidy.distinct
  begun := Nat.le_trans tidy.begun named
  home := tidy.home
  spent place holds name member :=
    (tidy.spent place (same ▸ holds) name member).of_le named

/-- Names from a number on are names from an earlier number on. -/
theorem of_le
    {later : Nat}
    (tidy : after.Tidy machine later)
    (earlier : before.Tidy machine first)
    (further : first ≤ later) :
    after.Tidy machine first :=
  { tidy with
    begun := Nat.le_trans further tidy.begun
    home := earlier.home }

/-- Something is put where all names are spent. -/
theorem insert
    (tidy : before.Tidy machine first)
    {entry : Entry}
    (below : location ≠ [])
    (names : ∀ name ∈ location, machine.Spent before.named name)
    (changed : after.tree = before.tree.insert location entry)
    (named : after.named = before.named) :
    after.Tidy machine first where
  distinct := changed ▸ tidy.distinct.insert location entry
  begun := named ▸ tidy.begun
  home := tidy.home
  spent := by
    intro place holds name member
    rw [named]
    obtain ⟨found, finds⟩ := contains_iff.1 holds
    rw [changed, find?_insert_below below] at finds
    split at finds
    · rename_i here
      exact names name (here ▸ member)
    · exact tidy.spent place (contains_iff.2 ⟨found, finds⟩) name member

/-- Something is taken away. -/
theorem of_within
    (tidy : before.Tidy machine first)
    (distinct : after.tree.Distinct)
    (fewer : after.tree.Within before.tree)
    (named : after.named = before.named) :
    after.Tidy machine first where
  distinct := distinct
  begun := named ▸ tidy.begun
  home := tidy.home
  spent place holds name member := named ▸ tidy.spent place (fewer.contains holds) name member

/-- A location is freed. -/
theorem erase
    (tidy : before.Tidy machine first)
    (below : location ≠ [])
    (changed : after.tree = before.tree.erase location)
    (named : after.named = before.named) :
    after.Tidy machine first := by
  refine tidy.of_within (changed ▸ tidy.distinct.erase location) ?_ named
  intro place entry found
  rw [changed, find?_erase_below below] at found
  split at found
  · cases found
  · exact found

/-- A location is freed with all that is below it. -/
theorem prune
    (tidy : before.Tidy machine first)
    (changed : after.tree = before.tree.prune location)
    (named : after.named = before.named) :
    after.Tidy machine first := by
  refine tidy.of_within (changed ▸ tidy.distinct.prune location) ?_ named
  exact changed ▸ prune_within _ location

end Workspace.Tidy

namespace Work

variable {machine : Machine} {holds : Workspace → Prop} {path : Path}

/-- Only what is put where a path leads can matter to the invariant. -/
structure Admits (machine : Machine) (holds : Workspace → Prop) (path : Path) : Prop where
  ignores : ∀ {before after : Workspace},
    after.tree = before.tree → after.named = before.named → holds before → holds after
  insert : ∀ {before after : Workspace} {location : Location} {entry : Entry},
    holds before →
      FileWork.holdsNull path.text = false →
      before.tree.resolve machine.directory path = .ok location →
      before.tree.isDirectory location = false →
      after.tree = before.tree.insert location entry →
      after.named = before.named →
      holds after

/-- Work that changes nothing. -/
theorem Keeps.of_eq
    {α : Type}
    {work : Work α}
    (unchanged : ∀ workspace, (work.perform machine workspace).2 = workspace) :
    Keeps machine holds (fun _ => True) work :=
  .of_forall fun workspace before => (unchanged workspace).symm ▸ before

namespace Admits

variable (admits : Admits machine holds path)

include admits

/-- What is refused for its path changes nothing, and all else is put where the path leads. -/
theorem keepsOrFails
    {step : Work (Option SystemError)}
    (nameless : Nameless step)
    (cases : ∀ workspace,
      let after := ((FileWork.reporting path.text none step).run.perform machine workspace).2
      after.tree = workspace.tree ∨
        ∃ location entry,
          workspace.tree.resolve machine.directory path = .ok location ∧
            workspace.tree.isDirectory location = false ∧
            after.tree = workspace.tree.insert location entry) :
    KeepsOrFails machine holds (fun _ => True) (FileWork.reporting path.text none step) := by
  refine .of_forall fun workspace before => ?_
  have named : ((FileWork.reporting path.text none step).run.perform machine workspace).2.named =
      workspace.named := Nameless.reporting nameless machine workspace
  rcases cases workspace with same | ⟨location, entry, leads, noDirectory, inserted⟩
  · exact admits.ignores same named before
  · cases null : FileWork.holdsNull path.text with
    | false => exact admits.insert before null leads noDirectory inserted named
    | true =>
        have refused : (FileWork.reporting path.text none step).run.perform machine workspace =
            _ := FileWork.perform_reporting path.text none step
        rw [null, Bool.true_or, if_pos rfl] at refused
        rw [refused]
        exact before

/-- A directory is made. -/
theorem makeDirectory :
    KeepsOrFails machine holds (fun _ => True) (FileWork.makeDirectory path) := by
  refine admits.keepsOrFails (.faulty (fun _ => .change _) fun _ _ => .pure _) ?_
  intro workspace
  rcases FileWork.makeDirectory_cases machine workspace path with
    ⟨-, -, same⟩ | ⟨location, -, leads, free, inserted⟩
  · exact .inl same
  · exact .inr ⟨location, _, leads, by simp [FileTree.isDirectory, free], inserted⟩

/-- A text is written. -/
theorem write (text : String) :
    KeepsOrFails machine holds (fun _ => True) (FileWork.write path text) := by
  refine admits.keepsOrFails (.faulty (fun _ => .change _) ?_) ?_
  · intro fault location
    split
    · exact .bind (.change _) fun _ => .pure _
    · exact .pure _
  · intro workspace
    rcases FileWork.write_cases machine workspace path text with
      ⟨-, -, same⟩ | ⟨location, content, leads, noDirectory, inserted, -⟩
    · exact .inl same
    · exact .inr ⟨location, _, leads, noDirectory, inserted⟩

end Admits

end Work

end GrammarCorpus
