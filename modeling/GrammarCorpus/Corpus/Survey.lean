import GrammarCorpus.Binary64.Decimal
import GrammarCorpus.Corpus.Partition
import GrammarCorpus.Files.Machine
import GrammarCorpus.Recount

namespace GrammarCorpus

/-!
# Surveys of a stored corpus

A survey looks through the directories of the classes and, in each, through those of
the sizes. Every file it can read as a grammar is counted with its shape; every other
entry, and every directory that is not named by an integer, is unreadable. Nothing
else is looked at.

An entry is looked up by its path, and there is no survey if one of these paths is too
long.
-/

/-- A grammar found in a corpus. -/
structure StoredGrammar where
  corpusClass : CorpusClass
  size : Int
  text : String
  shape : Shape
deriving DecidableEq, Repr

/-- What a survey says about one entry. -/
inductive Finding where
  | grammar (stored : StoredGrammar)
  | unreadable (path : Path)
deriving DecidableEq, Repr

namespace Finding

/-- The grammar that was found. -/
def grammar? : Finding → Option StoredGrammar
  | grammar stored => some stored
  | unreadable _ => none

/-- The entry that could not be read. -/
def unreadable? : Finding → Option Path
  | grammar _ => none
  | unreadable path => some path

end Finding

/-- What was found in a corpus. -/
structure Survey where
  grammars : List StoredGrammar
  unreadable : List Path
deriving DecidableEq, Repr

namespace Survey

/-- Looks at one entry of a directory for a size. -/
def lookAtFile
    (tree : FileTree)
    (corpusClass : CorpusClass)
    (size : Int)
    (path : Path)
    (location : Location) :
    Finding :=
  let read : Option (String × Shape) := do
    let content ← (tree.readFile location).toOption
    let text ← Text.decode? content
    let shape ← (Shape.recount text).toOption
    return (text, shape)
  match read with
  | some (text, shape) => .grammar { corpusClass, size, text, shape }
  | none => .unreadable path

/-- The names in a directory, in increasing order. -/
def sortedNames (tree : FileTree) (location : Location) : List String :=
  (tree.names location).mergeSort

/-- Looks at one entry of a directory for a class. A plain file is passed over. -/
def lookAtSize
    (tree : FileTree)
    (corpusClass : CorpusClass)
    (path : Path)
    (location : Location)
    (name : String) :
    List Finding :=
  let path := { path with parts := path.parts ++ [name] }
  let location := name :: location
  if tree.isDirectory location then
    match Text.integer? name with
    | none => [.unreadable path]
    | some size =>
        (sortedNames tree location).map fun name =>
          lookAtFile tree corpusClass size
            { path with parts := path.parts ++ [name] } (name :: location)
  else
    []

/-- The paths that are looked up in the directory for a class, one after the other. -/
def lookedUp (tree : FileTree) (path : Path) (location : Location) : List Path :=
  (sortedNames tree location).flatMap fun name =>
    let path := { path with parts := path.parts ++ [name] }
    let location := name :: location
    if tree.isDirectory location && (Text.integer? name).isSome then
      path :: (sortedNames tree location).map fun name =>
        { path with parts := path.parts ++ [name] }
    else
      [path]

/-- Whether a path cannot be looked up for its length. -/
def isTooLong (path : Path) : Bool :=
  Work.pathLimit < path.text.utf8ByteSize

/-- Looks at the directory for a class, if there is one. -/
def lookAtClass (base : Path) (corpusClass : CorpusClass) : FileWork (List Finding) := do
  let path := base.child corpusClass.text
  let place ← FileWork.place? path
  let tree := (← get).tree
  match place with
  | none => return []
  | some location =>
      if tree.isDirectory location then
        match (lookedUp tree path location).find? isTooLong with
        | some path => throw (.failed { cause := .nameTooLong, path := path.text })
        | none =>
            return (sortedNames tree location).flatMap
              (lookAtSize tree corpusClass path location)
      else
        return []

/-- Surveys the corpus below a base directory. -/
def ofDirectory (base : Path) : FileWork Survey := do
  let found ← CorpusClass.all.mapM (lookAtClass base)
  return {
    grammars := found.flatten.filterMap Finding.grammar?
    unreadable := found.flatten.filterMap Finding.unreadable? }

/-- The grammars of one class. -/
def members (survey : Survey) (corpusClass : CorpusClass) : List StoredGrammar :=
  survey.grammars.filter fun stored => stored.corpusClass = corpusClass

/-- The sizes in a class with the numbers of their grammars, by increasing size. -/
def bySize (survey : Survey) (corpusClass : CorpusClass) : List (Int × Nat) :=
  let sizes := (survey.members corpusClass).map StoredGrammar.size
  (sizes.eraseDups.mergeSort).map fun size => (size, sizes.count size)

/-- The number of different texts. -/
def unique (survey : Survey) : Nat :=
  ((survey.grammars.map StoredGrammar.text).eraseDups).length

/-- How often each text was found. -/
def textCounts (survey : Survey) : List Nat :=
  let texts := survey.grammars.map StoredGrammar.text
  texts.eraseDups.map texts.count

/-- The number of grammars beyond the first one with each text that was found more than once. -/
def duplicates (survey : Survey) : Nat :=
  total ((survey.textCounts.filter (1 < ·)).map (· - 1))

/--
The mean of some numbers. A whole mean has no point; any other is rounded to two
places after it was rounded to binary64. The mean of nothing is zero, with a point.
-/
def meanText (values : List Nat) : String :=
  if values.isEmpty then
    "0.0"
  else if total values % values.length = 0 then
    toString (total values / values.length)
  else
    ((Binary64.nearest false (total values) values.length).roundedTo 2).text

/-- The means of the shapes in a class: rules, alternatives and symbols. -/
def means (survey : Survey) (corpusClass : CorpusClass) : String × String × String :=
  let shapes := (survey.members corpusClass).map StoredGrammar.shape
  (meanText (shapes.map Shape.rules), meanText (shapes.map Shape.alternatives),
    meanText (shapes.map Shape.symbols))

end Survey

end GrammarCorpus
