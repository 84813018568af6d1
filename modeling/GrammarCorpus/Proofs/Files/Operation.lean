import GrammarCorpus.Proofs.Files.Walk
import GrammarCorpus.Proofs.Work

namespace GrammarCorpus

/-!
# What operations on files do

Each operation of a workspace either fails and leaves the tree as it is, or makes
the one change that its name says at the location that its path leads to. Faults can
make any call fail; a file that could not be written may be left without content.
Which calls fail is up to the machine, so the statements hold for all faults.

No operation takes a new name, and looking changes nothing at all.
-/

namespace FileTree

/-- What is seen at a path from a working directory. -/
def lookAt
    (tree : FileTree)
    (directory : Location)
    (path : Path) :
    Except FileFailure (Option Entry) :=
  if FileWork.holdsNull path.text then
    .ok none
  else
    match tree.resolve directory path with
    | .ok location => .ok (tree.find? location)
    | .error cause =>
        if cause.isAbsence then .ok none else .error (.failed { cause, path := path.text })

/-- What stands where the path leads is seen. -/
theorem lookAt_of_resolve
    {tree : FileTree}
    {directory location : Location}
    {path : Path}
    (noNull : FileWork.holdsNull path.text = false)
    (leads : tree.resolve directory path = .ok location) :
    tree.lookAt directory path = .ok (tree.find? location) := by
  simp [lookAt, noNull, leads]

/-- What is seen stands where the path leads. -/
theorem resolve_of_lookAt_eq_some
    {tree : FileTree}
    {directory : Location}
    {path : Path}
    {entry : Entry}
    (seen : tree.lookAt directory path = .ok (some entry)) :
    ∃ location,
      tree.resolve directory path = .ok location ∧ tree.find? location = some entry := by
  unfold lookAt at seen
  split at seen
  · cases seen
  · cases leads : tree.resolve directory path with
    | ok location =>
        rw [leads] at seen
        exact ⟨location, rfl, Except.ok.inj seen⟩
    | error cause =>
        simp only [leads] at seen
        split at seen <;> cases seen

/-- A path at which something is seen could be handed over. -/
theorem holdsNull_of_lookAt_eq_some
    {tree : FileTree}
    {directory : Location}
    {path : Path}
    {entry : Entry}
    (seen : tree.lookAt directory path = .ok (some entry)) :
    FileWork.holdsNull path.text = false := by
  unfold lookAt at seen
  split at seen
  · cases seen
  · rename_i handed
    simpa using handed

/-- A path that leads somewhere is short enough to be followed. -/
theorem walk_of_resolve
    {tree : FileTree}
    {directory location : Location}
    {path : Path}
    (leads : tree.resolve directory path = .ok location) :
    tree.walk (if path.anchor = .relative then directory else []) path.parts =
      .ok location := by
  unfold resolve at leads
  split at leads
  · cases leads
  · exact leads

/-- A path leads to a place that is named like its last part. -/
theorem head?_of_resolve
    {tree : FileTree}
    {directory target : Location}
    {path : Path}
    {outer : List String}
    {last : String}
    (leads : tree.resolve directory { path with parts := outer ++ [last] } = .ok target)
    (plain : last ≠ "..") :
    target.head? = some last := by
  have way := walk_of_resolve leads
  rw [walk_append] at way
  cases reached : tree.walk (if path.anchor = .relative then directory else []) outer with
  | error cause =>
      rw [reached] at way
      cases way
  | ok middle =>
      rw [reached] at way
      obtain ⟨rfl, -, -⟩ := walk_eq_ok_of_plain
        (fun member => plain (List.mem_singleton.1 member).symm) way
      rfl

/-- Where nothing is seen, the way ends at a free place or before it. -/
theorem walk_of_lookAt_eq_none
    {tree : FileTree}
    {directory : Location}
    {path : Path}
    (noNull : FileWork.holdsNull path.text = false)
    (seen : tree.lookAt directory path = .ok none) :
    let start := if path.anchor = .relative then directory else []
    (∃ location,
      tree.walk start path.parts = .ok location ∧ tree.find? location = none) ∨
      ∃ cause, tree.walk start path.parts = .error cause ∧ cause.isAbsence = true := by
  intro start
  simp only [lookAt, noNull, Bool.false_eq_true, if_false, resolve] at seen
  split at seen
  · rename_i location leads
    split at leads
    · cases leads
    · exact .inl ⟨location, leads, by simpa using seen⟩
  · rename_i cause fails
    split at seen
    · rename_i absent
      split at fails
      · cases fails
        exact absurd absent (by decide)
      · exact .inr ⟨cause, fails, absent⟩
    · cases seen

/-- All names in a tree can be handed over. -/
def Nameable (tree : FileTree) : Prop :=
  ∀ location,
    tree.contains location = true → ∀ name ∈ location, FileWork.holdsNull name = false

/-- The names of a tree can be checked entry by entry. -/
theorem nameable_of_entries
    {tree : FileTree}
    (checked : ∀ item ∈ tree.entries, ∀ name ∈ item.1, FileWork.holdsNull name = false) :
    tree.Nameable := by
  intro location holds
  cases location with
  | nil => exact nofun
  | cons outer parent =>
      obtain ⟨entry, member⟩ := mem_entries_of_contains holds
      exact checked _ member

/-- Nothing stands where a name cannot be handed over. -/
theorem Nameable.free
    {tree : FileTree}
    {location : Location}
    {name : String}
    (nameable : tree.Nameable)
    (null : FileWork.holdsNull name = true)
    (member : name ∈ location) :
    tree.find? location = none := by
  cases found : tree.find? location with
  | none => rfl
  | some entry =>
      have handed := nameable location (contains_iff.2 ⟨entry, found⟩) name member
      rw [null] at handed
      cases handed

end FileTree

namespace Work

variable {machine : Machine} {workspace : Workspace} {path : Path}

/-- Where a path leads is asked of the tree. -/
theorem perform_locate :
    (locate path).perform machine workspace =
      (workspace.tree.resolve machine.directory path, workspace) := by
  simp only [locate, locateAs, perform_bind, perform_read, perform_get]
  unfold FileTree.resolve
  split <;> rfl

/-- A change that can be made changes the tree. -/
theorem perform_change (act : FileTree → Except SystemError FileTree) :
    (change act).perform machine workspace =
      match act workspace.tree with
      | .ok tree => (none, { workspace with tree })
      | .error cause => (some cause, workspace) := rfl

end Work

namespace FileWork

variable {machine : Machine} {workspace : Workspace} {path : Path}

/-- Looking at a path tells what is there and changes nothing. -/
theorem perform_seen :
    ( entry? path).run.perform machine workspace =
      (workspace.tree.lookAt machine.directory path, workspace) := by
  unfold entry? place? FileTree.lookAt
  simp only [Work.perform_run_bind]
  by_cases null : holdsNull path.text = true
  · simp [null]
  · simp only [null, Bool.false_eq_true, ↓reduceIte, Work.perform_run_bind,
      Work.perform_run_lift, Work.perform_locate]
    cases workspace.tree.resolve machine.directory path with
    | ok location => simp
    | error cause =>
        by_cases absent : cause.isAbsence = true
        · simp [absent]
        · simp [absent]

/-- Whether a path leads to something. -/
theorem perform_isThere :
    (isThere path).run.perform machine workspace =
      ((workspace.tree.lookAt machine.directory path).map Option.isSome, workspace) := by
  unfold isThere
  rw [Work.perform_run_bind, perform_seen]
  cases workspace.tree.lookAt machine.directory path <;> rfl

/-- Whether a path leads to a directory. -/
theorem perform_isDirectory :
    (isDirectory path).run.perform machine workspace =
      ((workspace.tree.lookAt machine.directory path).map fun entry =>
        entry.any Entry.isDirectory, workspace) := by
  unfold isDirectory
  rw [Work.perform_run_bind, perform_seen]
  cases workspace.tree.lookAt machine.directory path <;> rfl

/-- Looking for missing paths changes nothing. -/
theorem perform_missingFrom_snd (anchor : Anchor) (names : List String) :
    ((missingFrom anchor names).run.perform machine workspace).2 = workspace := by
  induction names with
  | nil => rfl
  | cons name outer inductionHypothesis =>
      rw [missingFrom, Work.perform_run_bind, perform_isThere]
      simp only
      split
      · split
        · rfl
        · rw [Work.perform_run_bind]
          split <;> simp [inductionHypothesis]
      · rfl

/--
The paths that are missing: all that go on behind the part of the path that is there,
up to the path itself.
-/
theorem exists_of_missingFrom_eq_ok
    {anchor : Anchor}
    {names : List String}
    {listed : List Path}
    (found : ((missingFrom anchor names).run.perform machine workspace).1 = .ok listed) :
    ∃ known rest,
      names.reverse = known ++ rest ∧
        (∀ other, other ∈ listed ↔
          ∃ taken, taken ≠ [] ∧ taken <+: rest ∧ other = ⟨anchor, known ++ taken⟩) ∧
        (∀ other ∈ listed,
          workspace.tree.lookAt machine.directory other = .ok none) ∧
        (known = [] ∨
          ∃ entry,
            workspace.tree.lookAt machine.directory ⟨anchor, known⟩ = .ok (some entry)) := by
  induction names generalizing listed with
  | nil =>
      obtain rfl : [] = listed := by simpa [missingFrom] using found
      refine ⟨[], [], rfl, ?_, by simp, .inl rfl⟩
      intro other
      simp only [List.not_mem_nil, List.prefix_nil, false_iff, not_exists, not_and]
      intro taken some none
      exact absurd none some
  | cons name outer inductionHypothesis =>
      rw [missingFrom, Work.perform_run_bind, perform_isThere] at found
      cases seen : workspace.tree.lookAt machine.directory
          ⟨anchor, (name :: outer).reverse⟩ with
      | error failure =>
          simp only [seen, Except.map] at found
          cases found
      | ok entry =>
          simp only [seen, Except.map] at found
          cases entry with
          | some entry =>
              obtain rfl : [] = listed := by simpa using found
              refine ⟨(name :: outer).reverse, [], by simp, ?_, by simp,
                .inr ⟨entry, seen⟩⟩
              intro other
              simp only [List.not_mem_nil, List.prefix_nil, false_iff, not_exists, not_and]
              intro taken some none
              exact absurd none some
          | none =>
              simp only [Option.isSome_none, Bool.false_eq_true, ↓reduceIte] at found
              rw [Work.perform_run_bind] at found
              cases above : ((missingFrom anchor outer).run.perform machine workspace).1 with
              | error failure =>
                  simp [above] at found
              | ok others =>
                  simp only [above, ExceptT.run_pure, Work.perform_pure,
                    Except.ok.injEq] at found
                  subst found
                  obtain ⟨known, rest, shape, members, gone, there⟩ :=
                    inductionHypothesis above
                  refine ⟨known, rest ++ [name], by simp [shape], ?_, ?_, there⟩
                  · intro other
                    rw [List.mem_cons, members]
                    constructor
                    · rintro (rfl | ⟨taken, some, inside, rfl⟩)
                      · exact ⟨rest ++ [name], by simp, List.prefix_refl _, by simp [shape]⟩
                      · exact ⟨taken, some, inside.trans (List.prefix_append _ _), rfl⟩
                    · rintro ⟨taken, some, inside, rfl⟩
                      rcases List.prefix_concat_iff.1 inside with whole | shorter
                      · exact .inl (by simp [whole, shape])
                      · exact .inr ⟨taken, some, shorter, rfl⟩
                  · intro other member
                    rcases List.mem_cons.1 member with rfl | inOthers
                    · exact seen
                    · exact gone other inOthers

/-- A reported step is not made if a text cannot be handed over. -/
theorem perform_reporting
    (handed : String)
    (target : Option String)
    (step : Work (Option SystemError)) :
    (reporting handed target step).run.perform machine workspace =
      if holdsNull handed || target.any holdsNull then
        (.error .nullInPath, workspace)
      else
        (match (step.perform machine workspace).1 with
          | none => .ok ()
          | some cause => .error (.failed { cause, path := handed, target }),
          (step.perform machine workspace).2) := by
  unfold reporting
  split
  · rfl
  · rw [Work.perform_run_bind, Work.perform_run_lift]
    cases (step.perform machine workspace).1 <;> rfl

/-- A step that a fault may prevent. -/
theorem perform_faulty
    (step : Location → Work (Option SystemError))
    (onFault : Fault → Location → Work Unit) :
    (faulty path.text path step onFault).perform machine workspace =
      let called := { workspace with calls := workspace.calls + 1 }
      match machine.faults workspace.calls,
        workspace.tree.resolve machine.directory path with
      | some fault, .ok location =>
          (some fault.cause, ((onFault fault location).perform machine called).2)
      | some fault, .error _ => (some fault.cause, called)
      | none, .ok location => (step location).perform machine called
      | none, .error cause => (some cause, called) := by
  have located := @Work.perform_locate machine
    { workspace with calls := workspace.calls + 1 } path
  simp only [Work.locate] at located
  simp only [faulty, Work.nextFault, Work.perform_bind, Work.perform_read,
    Work.perform_modifyGet, located]
  cases machine.faults workspace.calls <;>
    cases workspace.tree.resolve machine.directory path <;> rfl

end FileWork

end GrammarCorpus
