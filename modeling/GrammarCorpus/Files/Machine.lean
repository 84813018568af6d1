import GrammarCorpus.Files.FileTree
import GrammarCorpus.Files.Path
import GrammarCorpus.Oracle.Basic
import GrammarCorpus.Text.Utf8

namespace GrammarCorpus

/-!
# The machine a corpus is made on

A machine is what a run finds and cannot change: the engines, the launches that it
refuses, the working directory, a supply of new names, the calls of the file system that
will fail, and the order in which concurrent workers get their turns. What a run does
change is its workspace: the file tree, the messages written so far, and the engines
started so far.

An engine is a function from the text of a grammar file to a reply. It may leave
files beside the grammar. Whether it is waited for depends on the launch as well.
-/

/-- How an engine that was started comes to its end. -/
inductive Outcome where
  /-- It exits with a code, and its two streams hold these bytes. -/
  | finished (code : Int) (out err : ByteArray)
  /-- It runs into its limit; this is what it has written until then. -/
  | timedOut (captured : ByteArray)
  /-- It cannot be started. -/
  | unavailable (cause : SystemError)
  /-- The user interrupts the run. -/
  | interrupted

/--
What becomes of a launch that is refused while the engine runs. An engine that could not
be started does not run, and the user may be faster.
-/
def Outcome.underRefusal (fault : LaunchFault) : Outcome → Except LaunchFault Outcome
  | unavailable cause => .ok (.unavailable cause)
  | interrupted => .ok .interrupted
  | _ => .error fault

/-- What an engine does with a grammar. -/
structure Reply where
  outcome : Outcome
  /-- Files that are left beside the grammar, by name. -/
  leaves : List (String × ByteArray) := []

/-- The reply of the engine of each role to the text of a grammar file. -/
abbrev Engines :=
  Role → String → Reply

/-- A failure of one call of the file system. -/
structure Fault where
  cause : SystemError
  /-- Whether a file that could not be written is there afterwards, without content. -/
  leavesFile : Bool
deriving DecidableEq, Repr

/-- What a run finds and cannot change. -/
structure Machine where
  engines : Engines
  /--
  The launches that are refused, and why. Usually these are all with a fault; but a limit
  that is too long by less than the time that has passed since the start is accepted.
  -/
  refuses : Launch → Option LaunchFault := Launch.fault?
  /-- The working directory. -/
  directory : Location
  /-- The directory for temporary files. -/
  temporary : String
  /-- The new names, one after the other. -/
  names : Nat → String
  /-- The calls of the file system that fail, by their number. -/
  faults : Nat → Option Fault
  /-- The turns of concurrent workers. -/
  turns : Nat → Nat

/-- What a run changes. -/
structure Workspace where
  tree : FileTree
  /-- All that was written on the error stream. -/
  messages : String := ""
  /-- The engines that were started. -/
  launches : List Launch := []
  /-- The number of names that were taken. -/
  named : Nat := 0
  /-- The number of calls of the file system that could have failed by a fault. -/
  calls : Nat := 0
  /-- The number of turns that were given to workers. -/
  turned : Nat := 0

/-- The workspace after one more launch. -/
def Workspace.record (workspace : Workspace) (launch : Launch) : Workspace :=
  { workspace with launches := workspace.launches ++ [launch] }

/-- A computation on a machine that changes a workspace. -/
abbrev Work :=
  ReaderT Machine (StateM Workspace)

/-- Work on files, which may fail. What was done before a failure is not undone. -/
abbrev FileWork :=
  ExceptT FileFailure Work

namespace Work

/-- Writes on the error stream. -/
def say (message : String) : Work Unit :=
  modify fun workspace => { workspace with messages := workspace.messages ++ message }

/-- Takes a new name. -/
def newName : Work String := do
  let machine ← read
  modifyGet fun workspace =>
    (machine.names workspace.named, { workspace with named := workspace.named + 1 })

/-- Whose turn it is. -/
def nextTurn : Work Nat := do
  let machine ← read
  modifyGet fun workspace =>
    (machine.turns workspace.turned, { workspace with turned := workspace.turned + 1 })

/-- The fault that the next call of the file system meets. -/
def nextFault : Work (Option Fault) := do
  let machine ← read
  modifyGet fun workspace =>
    (machine.faults workspace.calls, { workspace with calls := workspace.calls + 1 })

/-- The number of bytes that the text of a path may have. -/
def pathLimit : Nat :=
  4095

/-- The location that a path leads to, which is handed over as a text. -/
def locateAs (handed : String) (path : Path) : Work (Except SystemError Location) := do
  let machine ← read
  let workspace ← get
  let start := if path.anchor = .relative then machine.directory else []
  if pathLimit < handed.utf8ByteSize then
    return .error .nameTooLong
  else
    return workspace.tree.walk start path.parts

/-- The location that a path leads to. -/
def locate (path : Path) : Work (Except SystemError Location) :=
  locateAs path.text path

/-- Changes the tree, or leaves it as it is if that fails. -/
def change (act : FileTree → Except SystemError FileTree) : Work (Option SystemError) :=
  modifyGet fun workspace =>
    match act workspace.tree with
    | .ok tree => (none, { workspace with tree })
    | .error cause => (some cause, workspace)

/-- Removes what a path leads to, with all that is below it. -/
def removeTree (path : Path) : Work (Option SystemError) := do
  match ← locate path with
  | .error cause => return some cause
  | .ok location =>
      change (·.removeTree location)

end Work

namespace FileWork

/-- The location that a path leads to, unless the way to it ends before. -/
def place? (path : Path) : FileWork (Option Location) := do
  if holdsNull path.text then
    return none
  else
    match ← ExceptT.lift (Work.locate path) with
    | .ok location => return some location
    | .error cause =>
        if cause.isAbsence then return none else throw (.failed { cause, path := path.text })

/-- What stands at the end of a path, if it leads anywhere. -/
def entry? (path : Path) : FileWork (Option Entry) := do
  let place ← place? path
  let workspace ← get
  return place.bind workspace.tree.find?

/-- Whether a path leads to a file or a directory. -/
def isThere (path : Path) : FileWork Bool := do
  return (← entry? path).isSome

/-- Whether a path leads to a directory. -/
def isDirectory (path : Path) : FileWork Bool := do
  return (← entry? path).any Entry.isDirectory

/--
The path with the given parts, the innermost first, and those above it that lead
nowhere; the search ends at the first that leads somewhere.
-/
def missingFrom (anchor : Anchor) : List String → FileWork (List Path)
  | [] => return []
  | name :: outer => do
      let path : Path := { anchor, parts := (name :: outer).reverse }
      if ← isThere path then
        return []
      else
        let above ← missingFrom anchor outer
        return path :: above

/-- A path and those above it that lead nowhere, the deepest first. -/
def missing (path : Path) : FileWork (List Path) :=
  missingFrom path.anchor path.parts.reverse

/-- Runs a step on texts that can be handed over; its failure is reported with them. -/
def reporting
    (path : String)
    (target : Option String)
    (step : Work (Option SystemError)) :
    FileWork Unit := do
  if holdsNull path || target.any holdsNull then
    throw .nullInPath
  else
    match ← ExceptT.lift step with
    | none => return ()
    | some cause => throw (.failed { cause, path, target })

/-- Runs a step on the location of a path, unless a fault comes first. -/
def faulty
    (handed : String)
    (path : Path)
    (step : Location → Work (Option SystemError))
    (onFault : Fault → Location → Work Unit) :
    Work (Option SystemError) := do
  let fault ← Work.nextFault
  let place ← Work.locateAs handed path
  match fault, place with
  | some fault, .ok location => do
      onFault fault location
      return some fault.cause
  | some fault, .error _ => return some fault.cause
  | none, .ok location => step location
  | none, .error cause => return some cause

/-- Makes a directory, whose path is handed over as a text. -/
def makeDirectoryAs (handed : String) (path : Path) : FileWork Unit :=
  reporting handed none <|
    faulty handed path (fun location => Work.change (·.makeDirectory location))
      (fun _ _ => return ())

/-- Makes a directory. -/
def makeDirectory (path : Path) : FileWork Unit :=
  makeDirectoryAs path.text path

/-- Takes a failure back if the path leads to a directory all the same. -/
def unlessDirectory (path : Path) (failure : FileFailure) : FileWork Unit := do
  if ← isDirectory path then return () else throw failure

/-- Makes a directory where nothing above it is missing; one that is there will do. -/
def ensureDirectory (path : Path) : FileWork Unit :=
  tryCatch (makeDirectory path) fun failure =>
    if failure.isNotFound then throw failure else unlessDirectory path failure

/--
Makes the directory with the given parts, the innermost first. Where the directory
above is missing, it is made first; a directory that is there already will do.
-/
def makeDirectoriesFrom (anchor : Anchor) : List String → FileWork Unit
  | [] => ensureDirectory { anchor, parts := [] }
  | name :: outer => do
      let path : Path := { anchor, parts := (name :: outer).reverse }
      tryCatch (makeDirectory path) fun failure => do
        if failure.isNotFound then
          makeDirectoriesFrom anchor outer
          ensureDirectory path
        else
          unlessDirectory path failure

/-- Makes a directory and those above it, as far as they are missing. -/
def makeDirectories (path : Path) : FileWork Unit :=
  makeDirectoriesFrom path.anchor path.parts.reverse

/-- Writes a text into a file. -/
def write (path : Path) (text : String) : FileWork Unit :=
  reporting path.text none <|
    faulty path.text path (fun location => Work.change (·.writeFile location text.toUTF8))
      fun fault location => do
        if fault.leavesFile then
          let _ ← Work.change (·.writeFile location ByteArray.empty)

/-- Moves a file. -/
def move (source target : Path) : FileWork Unit :=
  reporting source.text (some target.text) <|
    faulty source.text source
      (fun origin => do
        match ← Work.locate target with
        | .error cause => return some cause
        | .ok location => Work.change (·.moveFile origin location))
      (fun _ _ => return ())

/-- Removes a file. -/
def removeFile (path : Path) : FileWork Unit :=
  reporting path.text none do
    match ← Work.locate path with
    | .error cause => return some cause
    | .ok location => Work.change (·.removeFile location)

/-- Removes a directory with all that is below it. -/
def removeTree (path : Path) : FileWork Unit :=
  reporting path.text none do
    match ← Work.nextFault with
    | some fault => return some fault.cause
    | none => Work.removeTree path

end FileWork

namespace Work

/-- Removes a file, if it is there. -/
def discardFile (path : Path) : Work Unit := do
  if let .ok location ← locate path then
    let _ ← change (·.removeFile location)

/-- Removes a directory, if it is there and empty. -/
def discardDirectory (path : Path) : Work Unit := do
  if let .ok location ← locate path then
    let _ ← change (·.removeDirectory location)

/-- Removes a directory with all that is below it, as far as possible. -/
def discardTree (path : Path) : Work Unit := do
  let _ ← removeTree path

/-- Puts a file that an engine leaves beside the file at a location. -/
def leave (location : Location) (item : String × ByteArray) : Work Unit := do
  let _ ← change (·.writeFile (item.1 :: location.tail) item.2)

/-- Waits for the engine of a role that has been started on the file of a grammar. -/
def await (role : Role) (path : Path) : Work Outcome := do
  let machine ← read
  match ← locate path with
  | .error _ => return (machine.engines role "").outcome
  | .ok location => do
      let workspace ← get
      let text := (workspace.tree.readFile location).toOption.bind Text.decode?
      let reply := machine.engines role (text.getD "")
      reply.leaves.forM (leave location)
      return reply.outcome

/-- Starts the engine of a role on the file of a grammar, unless the launch is refused. -/
def start (role : Role) (launch : Launch) (path : Path) :
    Work (Except LaunchFault Outcome) := do
  let machine ← read
  match machine.refuses launch with
  | none => do
      modify (·.record launch)
      return .ok (← await role path)
  | some fault =>
      if fault.isEarly then
        return .error fault
      else do
        modify (·.record launch)
        return (← await role path).underRefusal fault

end Work

end GrammarCorpus
