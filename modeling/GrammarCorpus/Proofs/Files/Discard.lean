import GrammarCorpus.Proofs.Files.Operation

namespace GrammarCorpus

/-!
# What is taken away

Discarding never fails. It takes away what its path leads to, if that is of the right
kind, and otherwise nothing; a directory is discarded alone only while it is empty.
-/

namespace Work

open FileTree

/-- A file is discarded if the path leads to one. -/
theorem discardFile_cases (machine : Machine) (workspace : Workspace) (path : Path) :
    let after := ((discardFile path).perform machine workspace).2.tree
    (∃ location content,
      workspace.tree.resolve machine.directory path = .ok location ∧
        workspace.tree.find? location = some (.file content) ∧
        after = workspace.tree.erase location) ∨
      after = workspace.tree ∧
        ∀ location, workspace.tree.resolve machine.directory path = .ok location →
          ∀ content, workspace.tree.find? location ≠ some (.file content) := by
  intro after
  have shape : after = ((discardFile path).perform machine workspace).2.tree := rfl
  rw [discardFile, perform_bind, perform_locate] at shape
  cases leads : workspace.tree.resolve machine.directory path with
  | error cause =>
      rw [leads] at shape
      exact .inr ⟨shape, nofun⟩
  | ok location =>
      simp only [leads, perform_bind, perform_change, removeFile, readFile] at shape
      cases found : workspace.tree.find? location with
      | none =>
          rw [found] at shape
          refine .inr ⟨shape, ?_⟩
          intro other same content holds
          cases same
          cases found.symm.trans holds
      | some entry =>
          cases entry with
          | directory =>
              rw [found] at shape
              refine .inr ⟨shape, ?_⟩
              intro other same content holds
              cases same
              cases found.symm.trans holds
          | file content =>
              rw [found] at shape
              exact .inl ⟨location, content, rfl, found, shape⟩

/-- A directory is discarded with all that is below it, if the path leads to one. -/
theorem discardTree_cases (machine : Machine) (workspace : Workspace) (path : Path) :
    let after := ((discardTree path).perform machine workspace).2.tree
    (∃ location,
      workspace.tree.resolve machine.directory path = .ok location ∧
        workspace.tree.isDirectory location = true ∧
        after = workspace.tree.prune location) ∨
      after = workspace.tree ∧
        ∀ location, workspace.tree.resolve machine.directory path = .ok location →
          workspace.tree.isDirectory location = false := by
  intro after
  have shape : after = ((discardTree path).perform machine workspace).2.tree := rfl
  rw [discardTree, perform_bind, Work.removeTree, perform_bind, perform_locate] at shape
  cases leads : workspace.tree.resolve machine.directory path with
  | error cause =>
      rw [leads] at shape
      exact .inr ⟨shape, nofun⟩
  | ok location =>
      simp only [leads, perform_change, FileTree.removeTree] at shape
      cases found : workspace.tree.find? location with
      | none =>
          rw [found] at shape
          refine .inr ⟨shape, ?_⟩
          intro other same
          cases same
          simp [FileTree.isDirectory, found]
      | some entry =>
          cases entry with
          | directory =>
              rw [found] at shape
              exact .inl ⟨location, rfl, isDirectory_iff.2 found, shape⟩
          | file content =>
              rw [found] at shape
              refine .inr ⟨shape, ?_⟩
              intro other same
              cases same
              simp [FileTree.isDirectory, found, Entry.isDirectory]

/-- A directory that stands at the end of a path is discarded. -/
theorem discardTree_of_isDirectory
    {machine : Machine}
    {workspace : Workspace}
    {path : Path}
    {location : Location}
    (leads : workspace.tree.resolve machine.directory path = .ok location)
    (isDirectory : workspace.tree.isDirectory location = true) :
    ((discardTree path).perform machine workspace).2.tree = workspace.tree.prune location := by
  rcases discardTree_cases machine workspace path with
    ⟨other, leadsOther, -, pruned⟩ | ⟨-, noDirectory⟩
  · cases leads.symm.trans leadsOther
    exact pruned
  · cases isDirectory.symm.trans (noDirectory location leads)

/-- A directory is discarded alone if the path leads to one and nothing is below it. -/
theorem discardDirectory_cases (machine : Machine) (workspace : Workspace) (path : Path) :
    let after := ((discardDirectory path).perform machine workspace).2.tree
    (∃ location,
      workspace.tree.resolve machine.directory path = .ok location ∧
        location ≠ [] ∧
        workspace.tree.isDirectory location = true ∧
        (∀ name, workspace.tree.contains (name :: location) = false) ∧
        after = workspace.tree.erase location) ∨
      after = workspace.tree ∧
        ∀ location, workspace.tree.resolve machine.directory path = .ok location →
          location ≠ [] →
          workspace.tree.isDirectory location = true →
          ∃ name, workspace.tree.contains (name :: location) = true := by
  intro after
  have shape : after = ((discardDirectory path).perform machine workspace).2.tree := rfl
  rw [discardDirectory, perform_bind, perform_locate] at shape
  cases leads : workspace.tree.resolve machine.directory path with
  | error cause =>
      rw [leads] at shape
      exact .inr ⟨shape, nofun⟩
  | ok location =>
      simp only [leads, perform_bind, perform_change, removeDirectory] at shape
      cases directory : workspace.tree.isDirectory location with
      | false =>
          refine .inr ⟨?_, ?_⟩
          · cases found : workspace.tree.find? location with
            | none => rwa [found] at shape
            | some entry =>
                cases entry with
                | directory => simp [FileTree.isDirectory, found, Entry.isDirectory] at directory
                | file content => rwa [found] at shape
          · intro other same
            cases same
            simp [directory]
      | true =>
          rw [isDirectory_iff.1 directory] at shape
          by_cases root : location = []
          · refine .inr ⟨by simpa [root] using shape, ?_⟩
            intro other same below
            cases same
            exact absurd root below
          · by_cases childless : (workspace.tree.names location).isEmpty = true
            · refine .inl ⟨location, rfl, root, directory, names_isEmpty_iff.1 childless, ?_⟩
              simpa [root, childless] using shape
            · refine .inr ⟨by simpa [root, childless] using shape, ?_⟩
              intro other same _ _
              cases same
              rw [names_isEmpty_iff] at childless
              simpa using childless

end Work

namespace FileWork

/-- A directory is removed with all that is below it, unless a fault comes first. -/
theorem perform_removeTree
    {machine : Machine}
    {workspace : Workspace}
    {path : Path}
    {location : Location}
    (handed : holdsNull path.text = false)
    (leads : workspace.tree.resolve machine.directory path = .ok location)
    (isDirectory : workspace.tree.isDirectory location = true)
    (noFault : machine.faults workspace.calls = none) :
    (removeTree path).run.perform machine workspace =
      (.ok (), { workspace with
        calls := workspace.calls + 1
        tree := workspace.tree.prune location }) := by
  unfold removeTree
  rw [perform_reporting, handed]
  simp only [Option.any_none, Bool.or_false, Bool.false_eq_true, if_false]
  simp only [Work.nextFault, Work.perform_bind, Work.perform_read, Work.perform_modifyGet,
    noFault, Work.removeTree, Work.perform_locate, leads, Work.perform_change,
    FileTree.removeTree, FileTree.isDirectory_iff.1 isDirectory]

end FileWork

end GrammarCorpus
