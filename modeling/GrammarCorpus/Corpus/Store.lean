import GrammarCorpus.Corpus.Trial

namespace GrammarCorpus

/-!
# Storing a partition

Every grammar of a class is stored as a file of its own below a directory for the
class and one for the size; a grammar in two classes is stored twice. The files are
written into a staging directory first and then moved into place. When any step
fails, everything done so far is taken back, so that either all files are stored or
none.

The ledger records what would have to be taken back: the files that were moved, and
the directories that were missing before and may have been made.
-/

/-- The two places of a file: where it is staged, and where it is stored. -/
structure Placement where
  corpusClass : CorpusClass
  staged : Path
  stored : Path
deriving DecidableEq, Repr

/-- What has been done so far. -/
structure Ledger where
  /-- The file that is being written or moved. -/
  current : Path
  placements : List Placement
  moved : List Path
  created : List Path
deriving DecidableEq, Repr

namespace Partition

/-- What is to be stored: every class with every grammar in it. -/
def contents (partition : Partition) : List (CorpusClass × Classified) :=
  CorpusClass.all.flatMap fun corpusClass =>
    (partition.members corpusClass).map fun classified => (corpusClass, classified)

end Partition

namespace Store

/-- The place of a file in a corpus. -/
def place (directory : Path) (corpusClass : CorpusClass) (size : Int) (name : String) : Path :=
  ((directory.child corpusClass.text).child (toString size)).child name

/-- Writes a file, together with the directories above it. -/
def writeBelow (path : Path) (text : String) : FileWork Unit := do
  FileWork.makeDirectories path.parent
  FileWork.write path text

/-- Moves a file, after making the directories above its new place. -/
def moveBelow (source target : Path) : FileWork Unit := do
  FileWork.makeDirectories target.parent
  FileWork.move source target

/-- Stages files one after the other, until all are there or one fails. -/
def stage (output staging : Path) (size : Int) :
    List (CorpusClass × Classified) → Ledger → Work (Option FileFailure × Ledger)
  | [], ledger => return (none, ledger)
  | (corpusClass, classified) :: rest, ledger => do
      let name ← Work.newName
      let placement : Placement := {
        corpusClass := corpusClass
        staged := place staging corpusClass size name
        stored := place output corpusClass size name
      }
      let ledger := { ledger with current := placement.staged }
      match ← (writeBelow placement.staged classified.text).run with
      | .error failure => return (some failure, ledger)
      | .ok () =>
          stage output staging size rest
            { ledger with placements := ledger.placements ++ [placement] }

/-- Moves staged files into place, until all are there or one fails. -/
def settle : List Placement → Ledger → Work (Option FileFailure × Ledger)
  | [], ledger => return (none, ledger)
  | placement :: rest, ledger => do
      let ledger := { ledger with current := placement.stored }
      match ← (FileWork.missing placement.stored.parent).run with
      | .error failure => return (some failure, ledger)
      | .ok missing => do
          let ledger := { ledger with created := ledger.created ++ missing }
          match ← (moveBelow placement.staged placement.stored).run with
          | .error failure => return (some failure, ledger)
          | .ok () => settle rest { ledger with moved := ledger.moved ++ [placement.stored] }

/-- Directories without repetition, the deepest first. -/
def deepestFirst (directories : List Path) : List Path :=
  directories.eraseDups.mergeSort fun left right =>
    right.parts.length ≤ left.parts.length

/--
Takes everything back. A directory that is not empty holds what somebody else has
put there, and stays.
-/
def rollBack (staging : Path) (ledger : Ledger) : Work Unit := do
  ledger.moved.forM Work.discardFile
  Work.discardTree staging
  (deepestFirst ledger.created).forM Work.discardDirectory

/-- Stages all files and moves them into place. -/
def stageAndSettle (partition : Partition) (output staging : Path) (created : List Path) :
    Work (Option FileFailure × Ledger) := do
  let start : Ledger := { current := output, placements := [], moved := [], created }
  match ← stage output staging partition.size partition.contents start with
  | (some failure, ledger) => return (some failure, ledger)
  | (none, ledger) => settle ledger.placements ledger

/-- Stores a partition below an output directory, and tells what was stored where. -/
def persist (partition : Partition) (output : Path) : Job (List Placement) := do
  let created ← Job.ofFiles (FileWork.missing output)
  let staging := output.child (".staging-" ++ (← ExceptT.lift Work.newName))
  match ← ExceptT.lift (stageAndSettle partition output staging created) with
  | (some failure, ledger) => do
      ExceptT.lift (rollBack staging ledger)
      throw (Failure.blaming ledger.current.text failure)
  | (none, ledger) => do
      if ← Job.ofFiles (FileWork.isThere staging) then
        Job.ofBatch staging (FileWork.removeTree staging)
      return ledger.placements

/-- Adds a path to the list under a name, if there is one. -/
def addUnder (name : String) (path : Path) (lists : List (String × List Path)) :
    List (String × List Path) :=
  lists.map fun list => if list.1 = name then (list.1, list.2 ++ [path]) else list

/-- The stored files in lists for the classes; the class of a file is told by its path. -/
def byClass (placements : List Placement) : List (String × List Path) :=
  placements.foldl
    (fun lists placement => addUnder placement.stored.parent.parent.name placement.stored lists)
    (CorpusClass.all.map fun corpusClass => (corpusClass.text, []))

/-- Stores a partition below an output directory, and lists the files of each class. -/
def persistByClass (partition : Partition) (output : Path) :
    Job (List (String × List Path)) := do
  return byClass (← persist partition output)

end Store

end GrammarCorpus
