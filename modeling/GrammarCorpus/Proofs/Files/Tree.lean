import GrammarCorpus.Files.Machine

namespace GrammarCorpus

/-!
# Orders and shapes of file trees

Two trees are the same if they agree on every location, and one lies within another
if everything in the first stands unchanged in the second. A tree is grounded if
whatever it holds stands in a directory; the changes that operations make to trees
keep that.
-/

namespace FileTree

variable {tree before after : FileTree} {location : Location}

/-- Two trees agree on every location. -/
def Same (before after : FileTree) : Prop :=
  ∀ location, after.find? location = before.find? location

/-- Everything in the first tree stands unchanged in the second. -/
def Within (before after : FileTree) : Prop :=
  ∀ location entry, before.find? location = some entry → after.find? location = some entry

/-- Whatever the tree holds stands in a directory. -/
def Grounded (tree : FileTree) : Prop :=
  ∀ name parent, tree.contains (name :: parent) = true → tree.isDirectory parent = true

/-- A location that holds something. -/
theorem contains_iff :
    tree.contains location = true ↔ ∃ entry, tree.find? location = some entry :=
  Option.isSome_iff_exists

/-- A location that holds nothing. -/
theorem contains_eq_false_iff :
    tree.contains location = false ↔ tree.find? location = none := by
  simp [contains]

/-- A location that holds a directory. -/
theorem isDirectory_iff :
    tree.isDirectory location = true ↔ tree.find? location = some .directory := by
  unfold isDirectory
  cases tree.find? location with
  | none => simp
  | some entry => cases entry <;> simp [Entry.isDirectory]

/-- A directory is something. -/
theorem contains_of_isDirectory (directory : tree.isDirectory location = true) :
    tree.contains location = true :=
  contains_iff.2 ⟨.directory, isDirectory_iff.1 directory⟩

/-- What stands below the root is one of the entries. -/
theorem mem_entries_of_contains
    {name : String}
    {parent : Location}
    (holds : tree.contains (name :: parent) = true) :
    ∃ entry, (name :: parent, entry) ∈ tree.entries := by
  obtain ⟨entry, found⟩ := contains_iff.1 holds
  obtain ⟨before, after, shape, -⟩ := List.lookup_eq_some_iff.1 found
  exact ⟨entry, shape ▸ List.mem_append_right before List.mem_cons_self⟩

/-- A tree can be checked to be grounded, entry by entry. -/
theorem grounded_of_entries
    (checked : ∀ item ∈ tree.entries, tree.isDirectory item.1.tail = true) :
    tree.Grounded := by
  intro name parent holds
  obtain ⟨entry, member⟩ := mem_entries_of_contains holds
  exact checked _ member

namespace Within

/-- Every tree lies within itself. -/
theorem refl (tree : FileTree) : tree.Within tree :=
  fun _ _ found => found

/-- What the smaller tree holds, the greater one holds. -/
theorem contains
    (within : before.Within after)
    (holds : before.contains location = true) :
    after.contains location = true := by
  obtain ⟨entry, found⟩ := contains_iff.1 holds
  exact contains_iff.2 ⟨entry, within location entry found⟩

/-- What is free in the greater tree is free in the smaller one. -/
theorem free
    (within : before.Within after)
    (nothing : after.find? location = none) :
    before.find? location = none := by
  cases found : before.find? location with
  | none => rfl
  | some entry => simp [within location entry found] at nothing

/-- Directories of the smaller tree are directories of the greater one. -/
theorem isDirectory
    (within : before.Within after)
    (directory : before.isDirectory location = true) :
    after.isDirectory location = true :=
  isDirectory_iff.2 (within location .directory (isDirectory_iff.1 directory))

/-- Trees that lie within each other are the same. -/
theorem same
    (within : before.Within after)
    (back : after.Within before) :
    before.Same after := by
  intro location
  cases found : after.find? location with
  | none => exact (within.free found).symm
  | some entry => exact (back location entry found).symm

end Within

/-- Inserting changes what is found at one location. -/
theorem find?_insert_below
    (below : location ≠ [])
    (entry : Entry)
    (query : Location) :
    (tree.insert location entry).find? query =
      if query = location then some entry else tree.find? query := by
  cases query with
  | nil => simp [below.symm]
  | cons name parent => exact find?_insert tree location _ entry (by simp)

/-- Erasing frees one location. -/
theorem find?_erase_below
    (below : location ≠ [])
    (query : Location) :
    (tree.erase location).find? query =
      if query = location then none else tree.find? query := by
  cases query with
  | nil => simp [below.symm]
  | cons name parent => exact find?_erase tree location _ (by simp)

/-- Pruning frees a location and what lies below it. -/
theorem find?_prune_below
    (below : location ≠ [])
    (query : Location) :
    (tree.prune location).find? query =
      if location <:+ query then none else tree.find? query := by
  cases query with
  | nil => simp [below]
  | cons name parent => exact find?_prune tree location _ (by simp)

/-- Pruning adds nothing. -/
theorem prune_within (tree : FileTree) (location : Location) :
    (tree.prune location).Within tree := by
  intro place entry found
  cases place with
  | nil => exact found
  | cons name parent =>
      rw [find?_prune _ _ _ (List.cons_ne_nil _ _)] at found
      split at found
      · cases found
      · exact found

/-- What is pruned first does not matter. -/
theorem prune_comm (tree : FileTree) (location other : Location) :
    (tree.prune location).prune other = (tree.prune other).prune location := by
  simp only [prune, List.filter_filter, Bool.and_comm]

/-- Inserting takes nothing away from a tree that does not hold the location. -/
theorem within_insert
    (below : location ≠ [])
    (within : before.Within after)
    (nothing : before.find? location = none)
    (entry : Entry) :
    before.Within (after.insert location entry) := by
  intro query other found
  rw [find?_insert_below below]
  split
  · rename_i same
    simp [same, nothing] at found
  · exact within query other found

/-- Erasing takes nothing away from a tree that does not hold the location. -/
theorem within_erase
    (below : location ≠ [])
    (within : before.Within after)
    (nothing : before.find? location = none) :
    before.Within (after.erase location) := by
  intro query other found
  rw [find?_erase_below below]
  split
  · rename_i same
    simp [same, nothing] at found
  · exact within query other found

namespace Grounded

/-- Directories stand above whatever a grounded tree holds. -/
theorem isDirectory_of_suffix
    (grounded : tree.Grounded)
    {above : Location}
    {name : String}
    {parent : Location}
    (holds : tree.contains (name :: parent) = true)
    (upward : above <:+ parent) :
    tree.isDirectory above = true := by
  induction parent generalizing name with
  | nil =>
      rw [List.suffix_nil.1 upward]
      exact grounded name [] holds
  | cons outer rest inductionHypothesis =>
      have directory := grounded name (outer :: rest) holds
      rcases List.suffix_cons_iff.1 upward with same | further
      · exact same ▸ directory
      · exact inductionHypothesis (contains_of_isDirectory directory) further

/-- What lies above something is something. -/
theorem contains_of_suffix
    (grounded : tree.Grounded)
    {above : Location}
    (holds : tree.contains location = true)
    (upward : above <:+ location) :
    tree.contains above = true := by
  cases location with
  | nil =>
      exact (List.suffix_nil.1 upward) ▸ holds
  | cons name parent =>
      rcases List.suffix_cons_iff.1 upward with same | further
      · exact same ▸ holds
      · exact contains_of_isDirectory (grounded.isDirectory_of_suffix holds further)

/-- There is nothing below a free location. -/
theorem free_of_suffix
    (grounded : tree.Grounded)
    {above : Location}
    (free : tree.find? above = none)
    (upward : above <:+ location) :
    tree.find? location = none := by
  rw [← contains_eq_false_iff, ← Bool.not_eq_true] at free ⊢
  exact fun holds => free (grounded.contains_of_suffix holds upward)

/-- An entry that is put into a directory, in place of nothing or of a file. -/
theorem insert
    (grounded : tree.Grounded)
    {name : String}
    {parent : Location}
    (entry : Entry)
    (directory : tree.isDirectory parent = true)
    (noDirectory : tree.isDirectory (name :: parent) = false) :
    (tree.insert (name :: parent) entry).Grounded := by
  intro other outer holds
  rw [isDirectory_iff, find?_insert_below (by simp)]
  have stays : ∀ place, tree.isDirectory place = true →
      (if place = name :: parent then some entry else tree.find? place) =
        some .directory := by
    intro place isDirectory
    rw [if_neg, isDirectory_iff.1 isDirectory]
    rintro rfl
    simp [noDirectory] at isDirectory
  obtain ⟨found, finds⟩ := contains_iff.1 holds
  rw [find?_insert_below (by simp)] at finds
  split at finds
  · rename_i same
    obtain ⟨-, rfl⟩ := List.cons.inj same
    exact stays outer directory
  · exact stays outer (grounded other outer (contains_iff.2 ⟨found, finds⟩))

/-- A location below which there is nothing is freed. -/
theorem erase
    (grounded : tree.Grounded)
    (below : location ≠ [])
    (childless : ∀ name, tree.contains (name :: location) = false) :
    (tree.erase location).Grounded := by
  intro name parent holds
  obtain ⟨found, finds⟩ := contains_iff.1 holds
  rw [find?_erase_below below] at finds
  split at finds
  · simp at finds
  · have inside : tree.contains (name :: parent) = true := contains_iff.2 ⟨found, finds⟩
    rw [isDirectory_iff, find?_erase_below below, if_neg]
    · exact isDirectory_iff.1 (grounded name parent inside)
    · rintro rfl
      simp [childless name] at inside

/-- There is nothing below a file. -/
theorem childless_of_file
    (grounded : tree.Grounded)
    {content : ByteArray}
    (file : tree.find? location = some (.file content))
    (name : String) :
    tree.contains (name :: location) = false := by
  cases holds : tree.contains (name :: location) with
  | false => rfl
  | true =>
      have directory := isDirectory_iff.1 (grounded name location holds)
      simp [directory] at file

/-- A location is freed with all that is below it. -/
theorem prune (grounded : tree.Grounded) (below : location ≠ []) :
    (tree.prune location).Grounded := by
  intro name parent holds
  obtain ⟨found, finds⟩ := contains_iff.1 holds
  rw [find?_prune_below below] at finds
  split at finds
  · simp at finds
  · rename_i outside
    rw [isDirectory_iff, find?_prune_below below, if_neg]
    · exact isDirectory_iff.1 (grounded name parent (contains_iff.2 ⟨found, finds⟩))
    · intro inside
      exact outside (inside.trans (List.suffix_cons name parent))

end Grounded

/-- A directory has no names below it exactly if nothing stands below it. -/
theorem names_isEmpty_iff :
    (tree.names location).isEmpty = true ↔
      ∀ name, tree.contains (name :: location) = false := by
  simp only [names, List.isEmpty_iff, List.filterMap_eq_nil_iff, contains_eq_false_iff,
    find?, List.lookup_eq_none_iff]
  constructor
  · intro nameless name entry member
    have noName := nameless entry member
    rw [bne_iff_ne]
    intro same
    simp [← same] at noName
  · intro absent entry member
    split
    · rfl
    · rename_i name parent place
      rw [if_neg]
      rintro rfl
      have differs := absent name entry member
      simp [place] at differs

end FileTree

end GrammarCorpus
