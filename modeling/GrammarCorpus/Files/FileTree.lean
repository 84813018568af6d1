import GrammarCorpus.Files.SystemError

namespace GrammarCorpus

/-!
# File trees

A file tree gives every location at most one entry, which is a directory or a file
with its bytes. A location is the list of names that lead to it, the innermost
first, so that the location of the parent is the tail. The root is a directory in
every tree.

Trees are seen through `FileTree.find?`. Inserting, erasing and removing whole
subtrees say what they do to it, and the operations of a file system are checked
combinations of these three.
-/

/-- The names on the way to an entry, the innermost first. -/
abbrev Location :=
  List String

/-- What stands at a location. -/
inductive Entry where
  | directory
  | file (content : ByteArray)

/-- Whether an entry is a directory. -/
def Entry.isDirectory : Entry → Bool
  | directory => true
  | file _ => false

/-- Directories and files below a root. -/
structure FileTree where
  entries : List (Location × Entry)

namespace FileTree

/-- The tree that holds nothing but its root. -/
def empty : FileTree :=
  ⟨[]⟩

/-- What stands at a location. -/
def find? (tree : FileTree) : Location → Option Entry
  | [] => some .directory
  | location => tree.entries.lookup location

/-- Whether a location holds anything. -/
def contains (tree : FileTree) (location : Location) : Bool :=
  (tree.find? location).isSome

/-- Whether a location holds a directory. -/
def isDirectory (tree : FileTree) (location : Location) : Bool :=
  (tree.find? location).any Entry.isDirectory

/-- Frees a single location. -/
def erase (tree : FileTree) (location : Location) : FileTree :=
  ⟨tree.entries.filter fun entry => entry.1 ≠ location⟩

/-- Puts an entry at a location, in place of what stands there. -/
def insert (tree : FileTree) (location : Location) (entry : Entry) : FileTree :=
  ⟨(location, entry) :: (tree.erase location).entries⟩

/-- Frees a location and all locations below it. -/
def prune (tree : FileTree) (location : Location) : FileTree :=
  ⟨tree.entries.filter fun entry => !location.isSuffixOf entry.1⟩

/-- The names directly below a location. -/
def names (tree : FileTree) (location : Location) : List String :=
  tree.entries.filterMap fun entry =>
    match entry.1 with
    | [] => none
    | name :: parent => if parent = location then some name else none

/-- The number of bytes that a name may have. -/
def nameLimit : Nat :=
  255

/-- Goes on to a part of a path from a location, which has to be a directory. -/
def enter
    (tree : FileTree)
    (location : Location)
    (part : String) :
    Except SystemError Location :=
  match tree.find? location with
  | none => .error .notFound
  | some (.file _) => .error .notDirectory
  | some .directory =>
      if part = ".." then .ok location.tail
      else if nameLimit < part.utf8ByteSize then .error .nameTooLong
      else .ok (part :: location)

/-- Follows the parts of a path. The place they lead to may be free. -/
def walk
    (tree : FileTree) :
    Location → List String → Except SystemError Location
  | location, [] => .ok location
  | location, part :: parts =>
      match tree.enter location part with
      | .error error => .error error
      | .ok next => tree.walk next parts

/-- Makes a directory at a free location. -/
def makeDirectory (tree : FileTree) (location : Location) : Except SystemError FileTree :=
  if tree.contains location then
    .error .alreadyExists
  else
    .ok (tree.insert location .directory)

/-- Writes a file at a location that holds no directory. -/
def writeFile
    (tree : FileTree)
    (location : Location)
    (content : ByteArray) :
    Except SystemError FileTree :=
  if tree.isDirectory location then
    .error .isDirectory
  else
    .ok (tree.insert location (.file content))

/-- The bytes of the file at a location. -/
def readFile (tree : FileTree) (location : Location) : Except SystemError ByteArray :=
  match tree.find? location with
  | none => .error .notFound
  | some .directory => .error .isDirectory
  | some (.file content) => .ok content

/-- Moves a file to a location that holds no directory. -/
def moveFile
    (tree : FileTree)
    (source target : Location) :
    Except SystemError FileTree :=
  match tree.readFile source with
  | .error error => .error error
  | .ok content => (tree.erase source).writeFile target content

/-- Removes the file at a location. -/
def removeFile (tree : FileTree) (location : Location) : Except SystemError FileTree :=
  match tree.readFile location with
  | .error error => .error error
  | .ok _ => .ok (tree.erase location)

/-- Removes the empty directory at a location. -/
def removeDirectory
    (tree : FileTree)
    (location : Location) :
    Except SystemError FileTree :=
  match tree.find? location with
  | none => .error .notFound
  | some (.file _) => .error .notDirectory
  | some .directory =>
      if location = [] then .error .busy
      else if (tree.names location).isEmpty then .ok (tree.erase location)
      else .error .notEmpty

/-- Removes the directory at a location with all that is below it. -/
def removeTree (tree : FileTree) (location : Location) : Except SystemError FileTree :=
  match tree.find? location with
  | none => .error .notFound
  | some (.file _) => .error .notDirectory
  | some .directory => .ok (tree.prune location)

/-- The root stands in every tree. -/
@[simp] theorem find?_root (tree : FileTree) :
    tree.find? [] = some .directory := rfl

/-- Erasing frees one location and leaves the others. -/
theorem find?_erase
    (tree : FileTree)
    (location query : Location)
    (below : query ≠ []) :
    (tree.erase location).find? query =
      if query = location then none else tree.find? query := by
  obtain ⟨entries⟩ := tree
  cases query with
  | nil => exact absurd rfl below
  | cons name parent =>
      simp only [find?, erase]
      induction entries with
      | nil => simp
      | cons entry entries inductionHypothesis =>
          obtain ⟨place, content⟩ := entry
          by_cases same : place = location
          · subst same
            by_cases found : name :: parent = place
            · simpa [List.lookup_cons, found] using inductionHypothesis
            · have differs : (name :: parent == place) = false := by
                simpa using found
              simpa [List.lookup_cons, differs] using inductionHypothesis
          · by_cases found : name :: parent = place
            · simp [← found, show ¬ name :: parent = location by
                rw [found]; exact same]
            · have differs : (name :: parent == place) = false := by
                simpa using found
              simpa [List.lookup_cons, same, differs] using inductionHypothesis

/-- Inserting changes what is found at one location. -/
theorem find?_insert
    (tree : FileTree)
    (location query : Location)
    (entry : Entry)
    (below : query ≠ []) :
    (tree.insert location entry).find? query =
      if query = location then some entry else tree.find? query := by
  cases query with
  | nil => exact absurd rfl below
  | cons name parent =>
      by_cases found : name :: parent = location
      · simp [insert, find?, ← found]
      · have differs : (name :: parent == location) = false := by simpa using found
        have erased := find?_erase tree location (name :: parent) below
        simp only [found, if_false] at erased
        simp only [insert, find?, List.lookup_cons, differs, found, if_false]
        exact erased

/-- Pruning frees a location and what lies below it, and leaves the others. -/
theorem find?_prune
    (tree : FileTree)
    (location query : Location)
    (below : query ≠ []) :
    (tree.prune location).find? query =
      if location <:+ query then none else tree.find? query := by
  obtain ⟨entries⟩ := tree
  cases query with
  | nil => exact absurd rfl below
  | cons name parent =>
      simp only [find?, prune]
      induction entries with
      | nil => simp
      | cons entry entries inductionHypothesis =>
          obtain ⟨place, content⟩ := entry
          by_cases found : name :: parent = place
          · subst found
            by_cases inside : location <:+ name :: parent
            · have inside' : location.isSuffixOf (name :: parent) = true := by
                simpa using inside
              simp only [inside, if_true] at inductionHypothesis ⊢
              simpa [inside'] using inductionHypothesis
            · have outside : location.isSuffixOf (name :: parent) = false := by
                simpa [← Bool.not_eq_true] using inside
              simp [outside, inside]
          · have differs : (name :: parent == place) = false := by simpa using found
            by_cases inside : location.isSuffixOf place = true
            · simpa [List.lookup_cons, inside, differs] using inductionHypothesis
            · have outside : location.isSuffixOf place = false := by
                simpa only [Bool.not_eq_true] using inside
              simpa [List.lookup_cons, outside, differs] using inductionHypothesis

end FileTree

end GrammarCorpus
