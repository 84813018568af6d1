import GrammarCorpus.Files.Machine

namespace GrammarCorpus

/-!
# Scratch directories

A batch works in a temporary directory of its own. However the batch ends, the
directory is removed; only after a batch that went well does it matter whether that
fails.
-/

namespace Scratch

/-- The number of names that are tried for a new directory. -/
def attempts : Nat :=
  10000

/-- The text of a place below a directory. -/
def below (directory name : String) : String :=
  if directory = "" || directory.toList.getLast? = some '/' then
    directory ++ name
  else
    directory ++ "/" ++ name

/-- Makes a new directory below another one, trying so many names. -/
def make (directory : String) : Nat → FileWork Path
  | 0 => throw (.failed { cause := .alreadyExists, path := directory })
  | attempts + 1 => do
      let name ← ExceptT.lift Work.newName
      let text := below directory ("cfg-gen-" ++ name)
      let path := Path.ofText text
      match ← ExceptT.lift (FileWork.makeDirectoryAs text path).run with
      | .ok () => return path
      | .error failure =>
          if failure.isTaken then make directory attempts else throw failure

/--
Works in a scratch directory below the given one, or below the directory for
temporary files. A failure of the work itself comes before one of the clearing up.
-/
def within
    {ε α : Type}
    (blame : String → FileFailure → ε)
    (parent : Option String)
    (work : Path → ExceptT ε Work α) :
    ExceptT ε Work α := do
  let machine ← ExceptT.lift (read : Work Machine)
  let directory := parent.getD machine.temporary
  match ← ExceptT.lift (make directory attempts).run with
  | .error failure =>
      let blamed := if directory = "" then machine.temporary else directory
      throw (blame (Path.ofText blamed).text failure)
  | .ok scratch => do
      match ← ExceptT.lift (work scratch).run with
      | .error failure => do
          ExceptT.lift (Work.discardTree scratch)
          throw failure
      | .ok found => do
          ExceptT.adapt (blame scratch.text) (FileWork.removeTree scratch)
          return found

end Scratch

end GrammarCorpus
