import GrammarCorpus.Proofs.Files.Operation

namespace GrammarCorpus

/-!
# What changes of files come to

Making a directory, writing a file and moving one either fail and leave the tree as
it is, or make the change at the locations that their paths lead to. A file whose
writing fails may be there all the same. Making a directory with all that is missing
above it makes directories on the way to it, one after the other, and each of them
at a location that was free.
-/

/-- Work that takes no new name. -/
def Nameless {α : Type} (work : Work α) : Prop :=
  ∀ machine workspace, (work.perform machine workspace).2.named = workspace.named

namespace Nameless

variable {α β ε : Type}

/-- A value takes no name. -/
theorem pure (value : α) : Nameless (Pure.pure value : Work α) :=
  fun _ _ => rfl

/-- Steps that take no name, one after the other. -/
theorem bind
    {work : Work α}
    {next : α → Work β}
    (first : Nameless work)
    (second : ∀ value, Nameless (next value)) :
    Nameless (work >>= next) := by
  intro machine workspace
  rw [Work.perform_bind, second, first]

/-- Steps that take no name, up to the first that fails. -/
theorem run_bind
    {work : ExceptT ε Work α}
    {next : α → ExceptT ε Work β}
    (first : Nameless work.run)
    (second : ∀ value, Nameless (next value).run) :
    Nameless (work >>= next).run := by
  intro machine workspace
  rw [Work.perform_run_bind]
  split
  · rw [second, first]
  · exact first machine workspace

/-- A step that takes no name, with another that meets its failure. -/
theorem run_tryCatch
    {work : ExceptT ε Work α}
    {handle : ε → ExceptT ε Work α}
    (first : Nameless work.run)
    (second : ∀ failure, Nameless (handle failure).run) :
    Nameless (tryCatch work handle).run := by
  intro machine workspace
  rw [Work.perform_run_tryCatch]
  split
  · exact first machine workspace
  · rw [second, first]

/-- Changing the tree takes no name. -/
theorem change (act : FileTree → Except SystemError FileTree) :
    Nameless (Work.change act) := by
  intro machine workspace
  rw [Work.perform_change]
  cases act workspace.tree <;> rfl

/-- Reporting a failure takes no name. -/
theorem reporting
    {handed : String}
    {target : Option String}
    {step : Work (Option SystemError)}
    (nameless : Nameless step) :
    Nameless (FileWork.reporting handed target step).run := by
  intro machine workspace
  rw [FileWork.perform_reporting]
  split
  · rfl
  · exact nameless machine workspace

/-- A fault takes no name. -/
theorem faulty
    {path : Path}
    {step : Location → Work (Option SystemError)}
    {onFault : Fault → Location → Work Unit}
    (stepNameless : ∀ location, Nameless (step location))
    (faultNameless : ∀ fault location, Nameless (onFault fault location)) :
    Nameless (FileWork.faulty path.text path step onFault) := by
  intro machine workspace
  rw [FileWork.perform_faulty]
  simp only
  split
  · exact faultNameless _ _ machine _
  · rfl
  · exact stepNameless _ machine _
  · rfl

/-- Making a directory takes no name. -/
theorem makeDirectory (path : Path) : Nameless (FileWork.makeDirectory path).run :=
  reporting (faulty (fun _ => change _) fun _ _ => pure _)

/-- Taking a failure back takes no name. -/
theorem unlessDirectory (path : Path) (failure : FileFailure) :
    Nameless (FileWork.unlessDirectory path failure).run := by
  refine run_bind ?_ ?_
  · intro machine workspace
    rw [FileWork.perform_isDirectory]
  · intro value
    cases value <;> exact pure _

/-- Making a directory where nothing above it is missing takes no name. -/
theorem ensureDirectory (path : Path) : Nameless (FileWork.ensureDirectory path).run := by
  refine run_tryCatch (makeDirectory path) fun failure => ?_
  split
  · exact pure _
  · exact unlessDirectory path failure

/-- Making directories takes no name. -/
theorem makeDirectoriesFrom (anchor : Anchor) (names : List String) :
    Nameless (FileWork.makeDirectoriesFrom anchor names).run := by
  induction names with
  | nil => exact ensureDirectory _
  | cons name outer inductionHypothesis =>
      refine run_tryCatch (makeDirectory _) ?_
      intro failure
      split
      · exact run_bind inductionHypothesis fun _ => ensureDirectory _
      · exact unlessDirectory _ failure

/-- Writing a file takes no name. -/
theorem write (path : Path) (text : String) : Nameless (FileWork.write path text).run := by
  refine reporting (faulty (fun _ => change _) ?_)
  intro fault location
  split
  · exact bind (change _) fun _ => pure _
  · exact pure _

end Nameless

namespace FileTree

variable {directory location : Location} {path : Path} {before after : FileTree}

/-- Directories have been made on the way along a path, each at a free location. -/
inductive Furnished (directory : Location) (path : Path) : FileTree → FileTree → Prop
  | done (tree : FileTree) : Furnished directory path tree tree
  | made
      {before between : FileTree}
      {parts : List String}
      {location : Location}
      (earlier : Furnished directory path before between)
      (onTheWay : parts <+: path.parts)
      (leads : between.resolve directory ⟨path.anchor, parts⟩ = .ok location)
      (free : between.find? location = none) :
      Furnished directory path before (between.insert location .directory)

namespace Furnished

/-- Directories that were made one after the other. -/
theorem trans
    {between : FileTree}
    (first : Furnished directory path before between)
    (second : Furnished directory path between after) :
    Furnished directory path before after := by
  induction second with
  | done => exact first
  | made _ onTheWay leads free inductionHypothesis =>
      exact .made inductionHypothesis onTheWay leads free

/-- What lies on the way to a place above lies on the way to the place. -/
theorem extend
    {parts : List String}
    (furnished : Furnished directory ⟨path.anchor, parts⟩ before after)
    (above : parts <+: path.parts) :
    Furnished directory path before after := by
  induction furnished with
  | done => exact .done _
  | made _ onTheWay leads free inductionHypothesis =>
      exact .made inductionHypothesis (onTheWay.trans above) leads free

/-- Directories that are made take nothing away. -/
theorem within (furnished : Furnished directory path before after) :
    before.Within after := by
  induction furnished with
  | done => exact .refl _
  | made _ _ _ free inductionHypothesis =>
      refine within_insert ?_ inductionHypothesis (inductionHypothesis.free free) _
      rintro rfl
      simp at free

/-- All that is new is a directory, and some beginning of the path leads there. -/
theorem exists_of_new
    {entry : Entry}
    (furnished : Furnished directory path before after)
    (found : after.find? location = some entry)
    (free : before.find? location = none) :
    entry = .directory ∧ ∃ parts,
      parts <+: path.parts ∧ after.resolve directory ⟨path.anchor, parts⟩ = .ok location := by
  induction furnished with
  | done => cases free.symm.trans found
  | made earlier onTheWay leads freeBetween inductionHypothesis =>
      rename_i between parts place
      have below : place ≠ [] := by
        rintro rfl
        simp at freeBetween
      have within := within_insert below (.refl between) freeBetween .directory
      rw [find?_insert_below below] at found
      split at found
      · rename_i here
        exact ⟨(Option.some.inj found).symm, parts, onTheWay, here ▸ within.resolve leads⟩
      · obtain ⟨isDirectory, others, above, reached⟩ := inductionHypothesis found
        exact ⟨isDirectory, others, above, within.resolve reached⟩

end Furnished

/-- A path leads to a directory. -/
def LeadsToDirectory (tree : FileTree) (directory : Location) (path : Path) : Prop :=
  ∃ location, tree.resolve directory path = .ok location ∧ tree.isDirectory location = true

/-- A path leads to a file with some content. -/
def LeadsToFile (tree : FileTree) (directory : Location) (path : Path) (content : ByteArray) :
    Prop :=
  ∃ location,
    tree.resolve directory path = .ok location ∧ tree.find? location = some (.file content)

/-- A directory that is seen at a path is there. -/
theorem leadsToDirectory_of_lookAt
    (seen : before.lookAt directory path = .ok (some .directory)) :
    before.LeadsToDirectory directory path := by
  obtain ⟨location, leads, found⟩ := resolve_of_lookAt_eq_some seen
  exact ⟨location, leads, isDirectory_iff.2 found⟩

end FileTree

namespace FileWork

open FileTree

variable {machine : Machine} {workspace : Workspace} {path : Path}

/--
What a reported step comes to: it fails before it is made, or a fault comes first, or
it is made where the path leads and its own failure is reported.
-/
theorem reporting_faulty_cases
    (machine : Machine)
    (workspace : Workspace)
    (path : Path)
    (target : Option String)
    (step : Location → Work (Option SystemError))
    (onFault : Fault → Location → Work Unit) :
    let called := { workspace with calls := workspace.calls + 1 }
    let after := (reporting path.text target
      (faulty path.text path step onFault)).run.perform machine workspace
    (∃ failure, after.1 = .error failure ∧ after.2.tree = workspace.tree) ∨
      (∃ failure fault location,
        after.1 = .error failure ∧
          workspace.tree.resolve machine.directory path = .ok location ∧
          after.2 = ((onFault fault location).perform machine called).2) ∨
      ∃ location,
        workspace.tree.resolve machine.directory path = .ok location ∧
          after.2 = ((step location).perform machine called).2 ∧
          (after.1 = .ok () ∧ ((step location).perform machine called).1 = none ∨
            ∃ failure cause,
              after.1 = .error failure ∧
                ((step location).perform machine called).1 = some cause) := by
  intro called after
  have shape : after = _ := perform_reporting path.text target _
  split at shape
  · refine .inl ⟨.nullInPath, ?_⟩
    simp [shape]
  · rw [perform_faulty] at shape
    simp only at shape
    cases met : machine.faults workspace.calls with
    | some fault =>
        cases leads : workspace.tree.resolve machine.directory path with
        | ok location =>
            rw [met, leads] at shape
            exact .inr (.inl ⟨.failed ⟨fault.cause, path.text, target⟩, fault, location,
              by rw [shape], rfl, by rw [shape]⟩)
        | error cause =>
            rw [met, leads] at shape
            exact .inl ⟨.failed ⟨fault.cause, path.text, target⟩,
              by rw [shape], by rw [shape]⟩
    | none =>
        cases leads : workspace.tree.resolve machine.directory path with
        | ok location =>
            rw [met, leads] at shape
            simp only at shape
            refine .inr (.inr ⟨location, rfl, by rw [shape], ?_⟩)
            cases ended : ((step location).perform machine called).1 with
            | none => exact .inl ⟨by rw [shape, ended], rfl⟩
            | some cause =>
                exact .inr ⟨.failed ⟨cause, path.text, target⟩, cause,
                  by rw [shape, ended], rfl⟩
        | error cause =>
            rw [met, leads] at shape
            exact .inl ⟨.failed ⟨cause, path.text, target⟩, by rw [shape], by rw [shape]⟩

/-- Making a directory fails and does nothing, or makes it at a free location. -/
theorem makeDirectory_cases (machine : Machine) (workspace : Workspace) (path : Path) :
    let after := (makeDirectory path).run.perform machine workspace
    (∃ failure, after.1 = .error failure ∧ after.2.tree = workspace.tree) ∨
      ∃ location,
        after.1 = .ok () ∧
          workspace.tree.resolve machine.directory path = .ok location ∧
          workspace.tree.find? location = none ∧
          after.2.tree = workspace.tree.insert location .directory := by
  intro after
  rcases reporting_faulty_cases machine workspace path none
      (fun location => Work.change (·.makeDirectory location)) (fun _ _ => return ()) with
    fails | ⟨failure, fault, location, fails, -, same⟩ | ⟨location, leads, changed, ended⟩
  · exact .inl fails
  · exact .inl ⟨failure, fails, (congrArg Workspace.tree same).trans rfl⟩
  · rw [Work.perform_change] at changed ended
    cases free : workspace.tree.find? location with
    | none =>
        have made : workspace.tree.makeDirectory location =
            .ok (workspace.tree.insert location .directory) := by
          simp [FileTree.makeDirectory, FileTree.contains, free]
        rw [made] at changed ended
        rcases ended with ⟨succeeds, -⟩ | ⟨_, _, -, contradiction⟩
        · exact .inr ⟨location, succeeds, leads, free, congrArg Workspace.tree changed⟩
        · cases contradiction
    | some entry =>
        have taken : workspace.tree.makeDirectory location = .error .alreadyExists := by
          simp [FileTree.makeDirectory, FileTree.contains, free]
        rw [taken] at changed ended
        rcases ended with ⟨-, contradiction⟩ | ⟨failure, _, fails, -⟩
        · cases contradiction
        · exact .inl ⟨failure, fails, (congrArg Workspace.tree changed).trans rfl⟩

/-- Work that makes directories on the way along a path, up to its end if it succeeds. -/
def Furnishes (machine : Machine) (path : Path) (work : FileWork Unit) : Prop :=
  ∀ workspace,
    Furnished machine.directory path workspace.tree
        (work.run.perform machine workspace).2.tree ∧
      ((work.run.perform machine workspace).1 = .ok () →
        (work.run.perform machine workspace).2.tree.LeadsToDirectory machine.directory path)

namespace Furnishes

/-- A failure makes nothing. -/
theorem throw (machine : Machine) (path : Path) (failure : FileFailure) :
    Furnishes machine path (MonadExcept.throw failure) :=
  fun workspace => ⟨.done workspace.tree, nofun⟩

/-- Making a directory makes nothing else. -/
theorem makeDirectory (machine : Machine) (path : Path) :
    Furnishes machine path (makeDirectory path) := by
  intro workspace
  rcases makeDirectory_cases machine workspace path with
    ⟨failure, fails, same⟩ | ⟨location, -, leads, free, inserted⟩
  · rw [same, fails]
    exact ⟨.done _, nofun⟩
  · have below : location ≠ [] := by
      rintro rfl
      simp at free
    rw [inserted]
    refine ⟨.made (.done _) (List.prefix_refl _) leads free, fun _ => ?_⟩
    refine ⟨location, (within_insert below (.refl _) free _).resolve leads, ?_⟩
    rw [isDirectory_iff, find?_insert_below below, if_pos rfl]

/-- A failure is taken back only where a directory is, and nothing is made. -/
theorem unlessDirectory (machine : Machine) (path : Path) (failure : FileFailure) :
    Furnishes machine path (unlessDirectory path failure) := by
  intro workspace
  unfold FileWork.unlessDirectory
  rw [Work.perform_run_bind, perform_isDirectory]
  cases seen : workspace.tree.lookAt machine.directory path with
  | error other => exact ⟨.done _, nofun⟩
  | ok entry =>
      rcases entry with _ | ⟨_ | content⟩
      · exact ⟨.done _, nofun⟩
      · exact ⟨.done _, fun _ => leadsToDirectory_of_lookAt seen⟩
      · exact ⟨.done _, nofun⟩

/-- Another attempt behind a failed one. -/
theorem tryCatch
    {first : FileWork Unit}
    {second : FileFailure → FileWork Unit}
    (furnishesFirst : Furnishes machine path first)
    (furnishesSecond : ∀ failure, Furnishes machine path (second failure)) :
    Furnishes machine path (MonadExcept.tryCatch first second) := by
  intro workspace
  rw [Work.perform_run_tryCatch]
  obtain ⟨made, leads⟩ := furnishesFirst workspace
  cases ended : (first.run.perform machine workspace).1 with
  | ok value => exact ⟨made, fun _ => leads ended⟩
  | error failure =>
      obtain ⟨madeThen, leadsThen⟩ :=
        furnishesSecond failure (first.run.perform machine workspace).2
      exact ⟨made.trans madeThen, leadsThen⟩

/-- The directory above first, then the rest of the way. -/
theorem bind
    {parts : List String}
    {first : FileWork Unit}
    {second : Unit → FileWork Unit}
    (furnishesFirst : Furnishes machine ⟨path.anchor, parts⟩ first)
    (above : parts <+: path.parts)
    (furnishesSecond : Furnishes machine path (second ())) :
    Furnishes machine path (first >>= second) := by
  intro workspace
  rw [Work.perform_run_bind]
  have made := (furnishesFirst workspace).1.extend above
  cases ended : (first.run.perform machine workspace).1 with
  | error failure => exact ⟨made, nofun⟩
  | ok value =>
      obtain ⟨madeThen, leadsThen⟩ :=
        furnishesSecond (first.run.perform machine workspace).2
      exact ⟨made.trans madeThen, leadsThen⟩

/-- A directory is made where nothing above it is missing, and nothing else. -/
theorem ensureDirectory (machine : Machine) (path : Path) :
    Furnishes machine path (ensureDirectory path) := by
  refine tryCatch (makeDirectory _ _) fun failure => ?_
  split
  · exact throw _ _ failure
  · exact unlessDirectory _ _ failure

/-- All that is missing is made on the way along the path. -/
theorem makeDirectoriesFrom (machine : Machine) (anchor : Anchor) (names : List String) :
    Furnishes machine ⟨anchor, names.reverse⟩ (makeDirectoriesFrom anchor names) := by
  induction names with
  | nil => exact ensureDirectory _ _
  | cons name outer inductionHypothesis =>
      refine tryCatch (makeDirectory _ _) ?_
      intro failure
      split
      · exact bind inductionHypothesis (by simp) (ensureDirectory _ _)
      · exact unlessDirectory _ _ failure

/-- A directory is made with all that is missing above it. -/
theorem makeDirectories (machine : Machine) (path : Path) :
    Furnishes machine path (makeDirectories path) := by
  have furnishes := makeDirectoriesFrom machine path.anchor path.parts.reverse
  rwa [List.reverse_reverse] at furnishes

end Furnishes

/--
Writing fails and leaves the tree, or a file is put where the path leads; if writing
succeeds, it holds the text.
-/
theorem write_cases (machine : Machine) (workspace : Workspace) (path : Path) (text : String) :
    let after := (write path text).run.perform machine workspace
    (∃ failure, after.1 = .error failure ∧ after.2.tree = workspace.tree) ∨
      ∃ location content,
        workspace.tree.resolve machine.directory path = .ok location ∧
          workspace.tree.isDirectory location = false ∧
          after.2.tree = workspace.tree.insert location (.file content) ∧
          (after.1 = .ok () → content = text.toUTF8) := by
  intro after
  -- A file is put where no directory stands.
  have put : ∀ location content (called : Workspace), called.tree = workspace.tree →
      let changed := (Work.change (·.writeFile location content)).perform machine called
      workspace.tree.isDirectory location = true ∧ changed.2.tree = workspace.tree ∧
          changed.1 ≠ none ∨
        workspace.tree.isDirectory location = false ∧
          changed.2.tree = workspace.tree.insert location (.file content) := by
    intro location content called same changed
    have shape : changed = _ := Work.perform_change _
    rw [same] at shape
    cases taken : workspace.tree.isDirectory location with
    | true => exact .inl ⟨rfl, by simp [shape, writeFile, taken, same]⟩
    | false => exact .inr ⟨rfl, by simp [shape, writeFile, taken]⟩
  rcases reporting_faulty_cases machine workspace path none
      (fun location => Work.change (·.writeFile location text.toUTF8))
      (fun fault location => do
        if fault.leavesFile then
          let _ ← Work.change (·.writeFile location ByteArray.empty)) with
    fails | ⟨failure, fault, location, fails, leads, left⟩ | ⟨location, leads, changed, ended⟩
  · exact .inl fails
  · by_cases leaves : fault.leavesFile = true
    · simp only [leaves, if_true, Work.perform_bind] at left
      rcases put location .empty { workspace with calls := workspace.calls + 1 } rfl with
        ⟨-, same, -⟩ | ⟨noDirectory, inserted⟩
      · exact .inl ⟨failure, fails, (congrArg Workspace.tree left).trans same⟩
      · refine .inr ⟨location, .empty, leads, noDirectory, ?_, ?_⟩
        · exact (congrArg Workspace.tree left).trans inserted
        · exact fun succeeds => nomatch fails.symm.trans succeeds
    · simp only [leaves] at left
      exact .inl ⟨failure, fails, (congrArg Workspace.tree left).trans rfl⟩
  · rcases put location text.toUTF8 { workspace with calls := workspace.calls + 1 } rfl with
      ⟨-, same, failed⟩ | ⟨noDirectory, inserted⟩
    · rcases ended with ⟨-, succeeded⟩ | ⟨failure, _, fails, -⟩
      · exact absurd succeeded failed
      · exact .inl ⟨failure, fails, (congrArg Workspace.tree changed).trans same⟩
    · exact .inr ⟨location, _, leads, noDirectory,
        (congrArg Workspace.tree changed).trans inserted, fun _ => rfl⟩

/-- A path whose file was written could be handed over. -/
theorem holdsNull_of_write
    {text : String}
    (done : ((write path text).run.perform machine workspace).1 = .ok ()) :
    holdsNull path.text = false := by
  unfold write at done
  rw [perform_reporting] at done
  split at done
  · cases done
  · rename_i handed
    simp only [Option.any_none, Bool.or_false, Bool.not_eq_true] at handed
    exact handed

/--
Moving fails and leaves the tree, or a file is taken from where the first path leads
and put where the second one leads.
-/
theorem move_cases (machine : Machine) (workspace : Workspace) (source target : Path) :
    let after := (move source target).run.perform machine workspace
    (∃ failure, after.1 = .error failure ∧ after.2.tree = workspace.tree) ∨
      ∃ origin location content,
        after.1 = .ok () ∧
          workspace.tree.resolve machine.directory source = .ok origin ∧
          workspace.tree.resolve machine.directory target = .ok location ∧
          workspace.tree.find? origin = some (.file content) ∧
          (workspace.tree.erase origin).isDirectory location = false ∧
          after.2.tree = (workspace.tree.erase origin).insert location (.file content) := by
  intro after
  have possible
      (step : Location → Work (Option SystemError))
      (onFault : Fault → Location → Work Unit)
      (_same : move source target =
        reporting source.text (some target.text) (faulty source.text source step onFault)) :=
    reporting_faulty_cases machine workspace source (some target.text) step onFault
  rcases possible _ _ rfl with
    fails | ⟨failure, fault, location, fails, -, same⟩ | ⟨origin, leads, changed, ended⟩
  · exact .inl fails
  · exact .inl ⟨failure, fails, (congrArg Workspace.tree same).trans rfl⟩
  · simp only [Work.perform_bind, Work.perform_locate] at changed ended
    cases leadsThen : workspace.tree.resolve machine.directory target with
    | error cause =>
        simp only [leadsThen, Work.perform_pure] at changed ended
        rcases ended with ⟨-, contradiction⟩ | ⟨failure, _, fails, -⟩
        · cases contradiction
        · exact .inl ⟨failure, fails, (congrArg Workspace.tree changed).trans rfl⟩
    | ok location =>
        simp only [leadsThen, Work.perform_change] at changed ended
        cases moved : workspace.tree.moveFile origin location with
        | error cause =>
            rw [moved] at changed ended
            rcases ended with ⟨-, contradiction⟩ | ⟨failure, _, fails, -⟩
            · cases contradiction
            · exact .inl ⟨failure, fails, (congrArg Workspace.tree changed).trans rfl⟩
        | ok tree =>
            rw [moved] at changed ended
            rcases ended with ⟨succeeds, -⟩ | ⟨_, _, -, contradiction⟩
            · unfold moveFile readFile at moved
              cases found : workspace.tree.find? origin with
              | none => simp [found] at moved
              | some entry =>
                  cases entry with
                  | directory => simp [found] at moved
                  | file content =>
                      simp only [found, writeFile] at moved
                      split at moved
                      · cases moved
                      · rename_i noDirectory
                        cases moved
                        exact .inr ⟨origin, location, content, succeeds, leads, rfl, found,
                          by simpa using noDirectory, congrArg Workspace.tree changed⟩
            · cases contradiction

end FileWork

end GrammarCorpus
