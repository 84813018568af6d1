import GrammarCorpus.Proofs.Files.Change
import GrammarCorpus.Proofs.Files.Failing
import Mathlib.Data.List.Infix

namespace GrammarCorpus

/-!
# A path and the paths above it

Without its last part, a path is one step further up; its start is above all others. Two
searches go up this way. One lists the paths that lead nowhere, and stops at the first that
leads somewhere. No path above that one is missing, so none is left out. The other makes
the directories: it fails where a file stands on the way, and where a path cannot be handed
over or is too long.

Both are followed along paths that do not turn back.
-/

/-- A path and all paths above it, up to its start, the deepest first. -/
def Path.upward (path : Path) : List Path :=
  path.parts.reverse.tails.map fun names => { path with parts := names.reverse }

namespace FileTree

variable {tree before after : FileTree} {directory location target : Location} {path : Path}

/-- Whether something stands where a path leads. -/
def reaches (tree : FileTree) (directory : Location) (path : Path) : Bool :=
  (tree.resolve directory path).toOption.any tree.contains

/-- Whether it is an error to look at a path, because it is too long for that. -/
def refuses (tree : FileTree) (directory : Location) (path : Path) : Bool :=
  !FileWork.holdsNull path.text && decide (tree.resolve directory path = .error .nameTooLong)

/-- A file stands where a path leads. -/
def EndsAtFile (tree : FileTree) (directory : Location) (path : Path) : Prop :=
  ∃ content, tree.LeadsToFile directory path content

/-- Whether a file stands where a path leads can be found out. -/
instance : Decidable (tree.EndsAtFile directory path) :=
  decidable_of_iff
    ((tree.resolve directory path).toOption.any fun location =>
      (tree.find? location).any fun entry => !entry.isDirectory) <| by
    unfold EndsAtFile LeadsToFile
    cases tree.resolve directory path with
    | error cause => simp [Except.toOption]
    | ok location =>
        rcases found : tree.find? location with _ | ⟨_ | content⟩ <;>
          simp [Except.toOption, found, Entry.isDirectory]

end FileTree

namespace Path

variable {path other : Path}

/-- The paths on the way up have the beginnings of the path as their parts. -/
theorem mem_upward :
    other ∈ path.upward ↔ ∃ known, known <+: path.parts ∧ other = { path with parts := known } := by
  rw [upward, List.mem_map]
  constructor
  · rintro ⟨names, member, rfl⟩
    refine ⟨names.reverse, ?_, rfl⟩
    rw [List.mem_tails] at member
    simpa using List.reverse_prefix.2 member
  · rintro ⟨known, inside, rfl⟩
    refine ⟨known.reverse, ?_, by rw [List.reverse_reverse]⟩
    rw [List.mem_tails]
    exact List.reverse_suffix.2 inside

/-- A path is on its own way up. -/
theorem mem_upward_self (path : Path) : path ∈ path.upward :=
  mem_upward.2 ⟨path.parts, List.prefix_rfl, rfl⟩

/-- The way up from a start ends there. -/
@[simp] theorem upward_nil (anchor : Anchor) : upward ⟨anchor, []⟩ = [⟨anchor, []⟩] := rfl

/-- The way up goes on without the last part. -/
theorem upward_cons (anchor : Anchor) (name : String) (outer : List String) :
    upward ⟨anchor, (name :: outer).reverse⟩ =
      ⟨anchor, (name :: outer).reverse⟩ :: upward ⟨anchor, outer.reverse⟩ := by
  simp [upward]

/-- On the way up, every path is shorter than those before it. -/
theorem pairwise_upward (path : Path) :
    path.upward.Pairwise fun first second => second.parts.length < first.parts.length := by
  rw [upward, List.pairwise_map]
  simp only [List.length_reverse]
  induction path.parts.reverse with
  | nil => exact List.pairwise_singleton _ _
  | cons name outer inductionHypothesis =>
      rw [List.tails_cons, List.pairwise_cons]
      refine ⟨fun names member => ?_, inductionHypothesis⟩
      exact Nat.lt_succ_of_le ((List.mem_tails _ _).1 member).length_le

end Path

namespace FileTree

variable {tree before after : FileTree} {directory location target : Location} {path : Path}

/-- Where a path leads to something. -/
theorem reaches_iff :
    tree.reaches directory path = true ↔
      ∃ location, tree.resolve directory path = .ok location ∧ tree.contains location = true := by
  unfold reaches
  cases tree.resolve directory path with
  | error cause => simp [Except.toOption]
  | ok location => simp [Except.toOption]

/-- What leads somewhere can be looked at. -/
theorem refuses_of_reaches (reached : tree.reaches directory path = true) :
    tree.refuses directory path = false := by
  obtain ⟨location, leads, -⟩ := reaches_iff.1 reached
  simp [refuses, leads]

/-- Above a path that leads to something, every path does. -/
theorem reaches_of_mem_upward
    {other : Path}
    (reached : tree.reaches directory path = true)
    (above : other ∈ path.upward) :
    tree.reaches directory other = true := by
  obtain ⟨known, inside, rfl⟩ := Path.mem_upward.1 above
  obtain ⟨location, leads, holds⟩ := reaches_iff.1 reached
  have way := walk_of_resolve leads
  obtain ⟨more, whole⟩ := id inside
  rw [← whole] at way
  obtain ⟨middle, first, there⟩ := contains_of_walk_append way holds
  refine reaches_iff.2 ⟨middle, ?_, there⟩
  rw [resolve_eq_walk (Path.text_le_pathLimit inside (text_le_of_resolve leads))]
  exact first

/-- So nothing above it is missing, and everything there can be looked at. -/
theorem upward_of_reaches (reached : tree.reaches directory path = true) :
    path.upward.find? (tree.refuses directory) = none ∧
      (path.upward.filter fun other => !tree.reaches directory other) = [] := by
  rw [List.find?_eq_none, List.filter_eq_nil_iff]
  refine ⟨fun other above => ?_, fun other above => ?_⟩
  · rw [refuses_of_reaches (reaches_of_mem_upward reached above)]
    exact Bool.false_ne_true
  · rw [reaches_of_mem_upward reached above]
    exact Bool.false_ne_true

/-- What leads to a directory leads to something. -/
theorem LeadsToDirectory.reaches (leads : tree.LeadsToDirectory directory path) :
    tree.reaches directory path = true := by
  obtain ⟨location, ends, isDirectory⟩ := leads
  exact reaches_iff.2 ⟨location, ends, contains_of_isDirectory isDirectory⟩

/-- Every start is a directory. -/
theorem start_leadsToDirectory
    (home : tree.isDirectory directory = true)
    (anchor : Anchor) :
    tree.LeadsToDirectory directory ⟨anchor, []⟩ := by
  refine ⟨if anchor = .relative then directory else [], ?_, ?_⟩
  · rw [resolve_eq_walk (by cases anchor <;> decide)]
    rfl
  · split
    · exact home
    · rfl

/-- Nothing stands where a path leads that cannot be handed over. -/
theorem reaches_of_null
    (nameable : tree.Nameable)
    (plain : ".." ∉ path.parts)
    (null : FileWork.holdsNull path.text = true) :
    tree.reaches directory path = false := by
  rw [← Bool.not_eq_true, reaches_iff]
  rintro ⟨location, leads, holds⟩
  obtain ⟨same, -, -⟩ := walk_eq_ok_of_plain plain (walk_of_resolve leads)
  rw [Path.holdsNull_text, List.any_eq_true] at null
  obtain ⟨part, member, isNull⟩ := null
  have onTheWay : part ∈ location := by
    rw [same]
    exact List.mem_append_left _ (List.mem_reverse.2 member)
  have noNull := nameable location holds part onTheWay
  rw [isNull] at noNull
  cases noNull

/--
A path cannot be looked at if its text is too long, or if it goes on behind a directory with
a name that is too long.
-/
theorem refuses_iff (plain : ".." ∉ path.parts) :
    tree.refuses directory path = true ↔
      FileWork.holdsNull path.text = false ∧
        (Work.pathLimit < path.text.utf8ByteSize ∨
          ∃ known name,
            known ++ [name] <+: path.parts ∧
              tree.LeadsToDirectory directory { path with parts := known } ∧
              ¬ Short name) := by
  unfold refuses
  rw [Bool.and_eq_true, Bool.not_eq_true', decide_eq_true_eq]
  refine and_congr_right fun _ => ?_
  by_cases long : Work.pathLimit < path.text.utf8ByteSize
  · simp only [long, true_or, iff_true]
    exact if_pos long
  · have short := Nat.not_lt.1 long
    rw [resolve_eq_walk short]
    simp only [long, false_or]
    constructor
    · intro fails
      obtain ⟨known, name, more, place, whole, leads, stops⟩ := exists_of_walk_error fails
      rcases enter_error_cases stops with contradiction | ⟨contradiction, -⟩ |
        ⟨-, isDirectory, tooLong⟩
      · cases contradiction
      · cases contradiction
      · have inside : known <+: path.parts := ⟨name :: more, whole.symm⟩
        refine ⟨known, name, ⟨more, by simp [whole]⟩, ⟨place, ?_, isDirectory⟩, tooLong⟩
        rw [resolve_eq_walk (Path.text_le_pathLimit inside short)]
        exact leads
    · rintro ⟨known, name, ⟨more, whole⟩, ⟨place, leads, isDirectory⟩, tooLong⟩
      have plainName : name ≠ ".." := by
        rintro rfl
        exact plain (by simp [← whole])
      rw [← whole, List.append_assoc, walk_append, walk_of_resolve leads]
      change tree.walk place (name :: more) = _
      rw [walk, enter_plain plainName isDirectory, if_pos (Nat.not_le.1 tooLong)]

/-- On the way to a directory there are directories only. -/
theorem isDirectory_of_walk_append
    {first second : List String}
    {middle : Location}
    (ends : tree.walk location (first ++ second) = .ok target)
    (isDirectory : tree.isDirectory target = true)
    (begins : tree.walk location first = .ok middle) :
    tree.isDirectory middle = true := by
  rw [walk_append, begins] at ends
  cases second with
  | nil =>
      cases ends
      exact isDirectory
  | cons part rest =>
      simp only [Except.bind, walk] at ends
      cases entered : tree.enter middle part with
      | error cause =>
          rw [entered] at ends
          cases ends
      | ok next => exact isDirectory_of_enter entered

/-- On the way up from a directory no path leads to what was a file. -/
theorem LeadsToDirectory.not_endsAtFile
    {other : Path}
    (leads : after.LeadsToDirectory directory path)
    (within : before.Within after)
    (above : other ∈ path.upward) :
    ¬ before.EndsAtFile directory other := by
  rintro ⟨content, place, leadsOther, file⟩
  obtain ⟨location, ends, isDirectory⟩ := leads
  obtain ⟨known, ⟨more, whole⟩, rfl⟩ := Path.mem_upward.1 above
  have way := walk_of_resolve ends
  rw [← whole] at way
  have passed := isDirectory_of_walk_append way isDirectory
    (within.walk (walk_of_resolve leadsOther))
  rw [isDirectory_iff, within _ _ file] at passed
  cases passed

/-- A path that leads to a directory, or whose way does, is not too long. -/
theorem LeadsToDirectory.isShort
    (leads : tree.LeadsToDirectory directory path)
    (plain : ".." ∉ path.parts) :
    path.IsShort := by
  obtain ⟨location, ends, -⟩ := leads
  obtain ⟨-, parts, -⟩ := walk_eq_ok_of_plain plain (walk_of_resolve ends)
  exact ⟨text_le_of_resolve ends, parts⟩

/--
Behind directories that were made there is no file, unless there was one before: a path that
goes on there with one more name leads to a directory or to a free place.
-/
theorem Furnished.exists_resolve_snoc
    {anchor : Anchor}
    {outer : List String}
    {name : String}
    (furnished : Furnished directory ⟨anchor, outer⟩ before after)
    (grounded : before.Grounded)
    (leads : after.LeadsToDirectory directory ⟨anchor, outer⟩)
    (plain : ".." ∉ outer ++ [name])
    (short : Path.IsShort ⟨anchor, outer ++ [name]⟩)
    (noFile : ¬ before.EndsAtFile directory ⟨anchor, outer ++ [name]⟩) :
    ∃ location,
      after.resolve directory ⟨anchor, outer ++ [name]⟩ = .ok location ∧
        ∀ content, after.find? location ≠ some (.file content) := by
  obtain ⟨plainOuter, plainName⟩ : ".." ∉ outer ∧ name ≠ ".." := by
    simpa [eq_comm] using plain
  obtain ⟨base, ends, isDirectory⟩ := leads
  have way := walk_of_resolve ends
  refine ⟨name :: base, ?_, fun content file => ?_⟩
  · have shortName := short.parts name (by simp)
    have step : after.walk base [name] = .ok (name :: base) := by
      rw [walk, enter_plain plainName isDirectory, if_neg (Nat.not_lt.2 shortName)]
      rfl
    rw [resolve_eq_walk short.whole, walk_append, way]
    exact step
  · cases found : before.find? (name :: base) with
    | none => cases (furnished.exists_of_new file found).1
    | some entry =>
        cases (furnished.within _ _ found).symm.trans file
        -- The file was there before, and so was the way to it.
        refine noFile ⟨content, name :: base, ?_, found⟩
        obtain ⟨rfl, -, -⟩ := walk_eq_ok_of_plain plainOuter way
        have holds : before.contains ((outer ++ [name]).reverse ++
            if anchor = .relative then directory else []) = true := by
          rw [List.reverse_append]
          exact contains_iff.2 ⟨_, found⟩
        rw [resolve_eq_walk short.whole]
        rcases grounded.walk_of_contains plain holds with ends | ⟨-, part, member, long⟩
        · rw [List.reverse_append] at ends
          exact ends
        · exact absurd (short.parts part member) long

/-- Where a path that is not too long leads nowhere, its way is missing or blocked by a file. -/
theorem resolve_error_of_isShort
    {cause : SystemError}
    (short : path.IsShort)
    (fails : tree.resolve directory path = .error cause) :
    cause = .notFound ∨ ∃ other ∈ path.upward, tree.EndsAtFile directory other := by
  rw [resolve_eq_walk short.whole] at fails
  obtain ⟨known, part, more, place, whole, leads, stops⟩ := exists_of_walk_error fails
  refine (enter_error_cases stops).imp_right ?_
  rintro (⟨-, content, file⟩ | ⟨-, -, long⟩)
  · have inside : known <+: path.parts := ⟨part :: more, whole.symm⟩
    refine ⟨_, Path.mem_upward.2 ⟨known, inside, rfl⟩, content, place, ?_, file⟩
    rw [resolve_eq_walk (short.of_prefix inside).whole]
    exact leads
  · exact absurd (short.parts part (by simp [whole])) long

end FileTree

namespace FileWork

open FileTree

variable {machine : Machine} {workspace : Workspace} {path : Path}

/-- Whether something is there is told, unless the path is too long to be looked at. -/
theorem perform_isThere_eq
    (nameable : workspace.tree.Nameable)
    (plain : ".." ∉ path.parts) :
    (isThere path).run.perform machine workspace =
      (if workspace.tree.refuses machine.directory path then
        .error (.failed { cause := .nameTooLong, path := path.text })
      else
        .ok (workspace.tree.reaches machine.directory path), workspace) := by
  rw [perform_isThere]
  refine congrArg (·, workspace) ?_
  unfold lookAt
  cases handed : holdsNull path.text with
  | true =>
      rw [reaches_of_null nameable plain handed]
      simp [refuses, handed, Except.map]
  | false =>
      unfold refuses reaches
      rw [handed]
      cases leads : workspace.tree.resolve machine.directory path with
      | ok location => simp [Except.map, Except.toOption, contains]
      | error cause =>
          rcases resolve_error_cases leads with absent | ⟨rfl, -⟩
          · have apart : cause ≠ .nameTooLong := by
              rintro rfl
              cases absent
            simp [absent, apart, Except.map, Except.toOption]
          · simp [show SystemError.isAbsence .nameTooLong = false by decide, Except.map]

/-- What is listed of the paths on the way up, or which of them is reported. -/
theorem perform_missingFrom
    (nameable : workspace.tree.Nameable)
    (home : workspace.tree.isDirectory machine.directory = true)
    (anchor : Anchor)
    {names : List String}
    (plain : ".." ∉ names) :
    (missingFrom anchor names).run.perform machine workspace =
      (match (Path.upward ⟨anchor, names.reverse⟩).find?
          (workspace.tree.refuses machine.directory) with
        | some refused => .error (.failed { cause := .nameTooLong, path := refused.text })
        | none =>
            .ok ((Path.upward ⟨anchor, names.reverse⟩).filter fun other =>
              !workspace.tree.reaches machine.directory other), workspace) := by
  induction names with
  | nil =>
      have start := (start_leadsToDirectory home anchor).reaches
      simp [missingFrom, start, refuses_of_reaches start]
  | cons name outer inductionHypothesis =>
      have plainOuter : ".." ∉ outer := fun member => plain (List.mem_cons_of_mem name member)
      have plainWhole : ".." ∉ (name :: outer).reverse := fun member =>
        plain (List.mem_reverse.1 member)
      rw [missingFrom, Work.perform_run_bind, perform_isThere_eq nameable plainWhole]
      cases reached : workspace.tree.reaches machine.directory
          ⟨anchor, (name :: outer).reverse⟩ with
      | true =>
          obtain ⟨looked, nothing⟩ := upward_of_reaches reached
          rw [refuses_of_reaches reached, looked, nothing]
          rfl
      | false =>
          rw [Path.upward_cons, List.find?_cons, List.filter_cons, reached]
          cases workspace.tree.refuses machine.directory ⟨anchor, (name :: outer).reverse⟩ with
          | true => rfl
          | false =>
              simp only [Bool.false_eq_true, if_false, Work.perform_run_bind,
                inductionHypothesis plainOuter]
              cases (Path.upward ⟨anchor, outer.reverse⟩).find?
                (workspace.tree.refuses machine.directory) <;> rfl

/--
The missing paths are all paths on the way up that lead nowhere, unless one is too long to be
looked at; then the deepest such path is the one that is reported.
-/
theorem perform_missing
    (nameable : workspace.tree.Nameable)
    (home : workspace.tree.isDirectory machine.directory = true)
    (plain : ".." ∉ path.parts) :
    (missing path).run.perform machine workspace =
      (match path.upward.find? (workspace.tree.refuses machine.directory) with
        | some refused => .error (.failed { cause := .nameTooLong, path := refused.text })
        | none =>
            .ok (path.upward.filter fun other =>
              !workspace.tree.reaches machine.directory other), workspace) := by
  have plainUp : ".." ∉ path.parts.reverse := fun member => plain (List.mem_reverse.1 member)
  have listed := @perform_missingFrom _ _ nameable home path.anchor _ plainUp
  rwa [List.reverse_reverse] at listed

/-- A failure is taken back if a directory is seen. -/
theorem perform_unlessDirectory (failure : FileFailure) :
    (unlessDirectory path failure).run.perform machine workspace =
      ((workspace.tree.lookAt machine.directory path).bind fun entry =>
        if entry.any Entry.isDirectory then .ok () else .error failure, workspace) := by
  unfold unlessDirectory
  rw [Work.perform_run_bind, perform_isDirectory]
  cases workspace.tree.lookAt machine.directory path with
  | error other => rfl
  | ok entry =>
      simp only [Except.map, Except.bind]
      split <;> rfl

/-- A path that cannot be handed over is not made. -/
theorem makeDirectoriesFrom_of_null
    {anchor : Anchor}
    {names : List String}
    (null : holdsNull (Path.text ⟨anchor, names.reverse⟩) = true) :
    ((makeDirectoriesFrom anchor names).run.perform machine workspace).1 =
      .error .nullInPath := by
  cases names with
  | nil =>
      rw [Path.holdsNull_text] at null
      cases null
  | cons name outer =>
      have fails : (makeDirectory ⟨anchor, (name :: outer).reverse⟩).run.perform machine workspace =
          (.error .nullInPath, workspace) := by
        unfold makeDirectory makeDirectoryAs
        rw [perform_reporting, null]
        rfl
      have seen : workspace.tree.lookAt machine.directory ⟨anchor, (name :: outer).reverse⟩ =
          .ok none := by
        rw [lookAt, if_pos null]
      rw [makeDirectoriesFrom, Work.perform_run_tryCatch, fails]
      simp only [FileFailure.isNotFound, Bool.false_eq_true, if_false]
      rw [perform_unlessDirectory, seen]
      rfl

section Faultless

variable (faultless : ∀ call, machine.faults call = none)

include faultless

/-- Where no call meets a fault, a directory is made exactly as the tree allows. -/
theorem perform_makeDirectory (handed : holdsNull path.text = false) :
    (makeDirectory path).run.perform machine workspace =
      (match (workspace.tree.resolve machine.directory path).bind workspace.tree.makeDirectory with
        | .ok tree => (.ok (), { workspace with calls := workspace.calls + 1, tree })
        | .error cause =>
            (.error (.failed { cause, path := path.text }),
              { workspace with calls := workspace.calls + 1 })) := by
  unfold makeDirectory makeDirectoryAs
  rw [perform_reporting, handed, perform_faulty, faultless]
  cases workspace.tree.resolve machine.directory path with
  | error cause => rfl
  | ok location =>
      simp only [Except.bind, Work.perform_change]
      cases workspace.tree.makeDirectory location <;> rfl

/-- Where a path leads to no file, a directory is made or is there already. -/
theorem makeDirectory_succeeds
    {location : Location}
    {handle : FileFailure → FileWork Unit}
    (takesBack : ∀ failure,
      failure.isNotFound = false → handle failure = unlessDirectory path failure)
    (handed : holdsNull path.text = false)
    (leads : workspace.tree.resolve machine.directory path = .ok location)
    (noFile : ∀ content, workspace.tree.find? location ≠ some (.file content)) :
    ((tryCatch (makeDirectory path) handle).run.perform machine workspace).1 = .ok () := by
  rw [Work.perform_run_tryCatch, perform_makeDirectory faultless handed, leads]
  simp only [Except.bind, FileTree.makeDirectory]
  cases holds : workspace.tree.contains location with
  | false => rfl
  | true =>
      obtain ⟨entry, found⟩ := contains_iff.1 holds
      have isDirectory : entry = .directory := by
        cases entry with
        | directory => rfl
        | file content => exact absurd found (noFile content)
      simp only [if_true]
      rw [takesBack _ rfl, perform_unlessDirectory, lookAt_of_resolve handed leads, found,
        isDirectory]
      rfl

/-- Directories are made for a path that is not too long, where no file is on the way. -/
theorem makeDirectoriesFrom_succeeds
    (grounded : workspace.tree.Grounded)
    (home : workspace.tree.isDirectory machine.directory = true)
    (anchor : Anchor)
    {names : List String}
    (plain : ".." ∉ names)
    (handed : ∀ name ∈ names, holdsNull name = false)
    (short : Path.IsShort ⟨anchor, names.reverse⟩)
    (unblocked : ∀ other ∈ Path.upward ⟨anchor, names.reverse⟩,
      ¬ workspace.tree.EndsAtFile machine.directory other) :
    ((makeDirectoriesFrom anchor names).run.perform machine workspace).1 = .ok () := by
  induction names generalizing workspace with
  | nil =>
      obtain ⟨location, leads, isDirectory⟩ := start_leadsToDirectory home anchor
      rw [makeDirectoriesFrom, ensureDirectory]
      refine makeDirectory_succeeds faultless (fun failure known => by simp [known]) ?_ leads ?_
      · rw [Path.holdsNull_text]
        rfl
      · intro content file
        cases (isDirectory_iff.1 isDirectory).symm.trans file
  | cons name outer inductionHypothesis =>
      have plainOuter : ".." ∉ outer := fun member => plain (List.mem_cons_of_mem name member)
      obtain ⟨-, handedOuter⟩ := List.forall_mem_cons.1 handed
      have handedWhole : holdsNull (Path.text ⟨anchor, (name :: outer).reverse⟩) = false := by
        rw [Path.holdsNull_text, List.any_reverse, List.any_eq_false]
        simpa using handed
      rw [makeDirectoriesFrom]
      cases leads : workspace.tree.resolve machine.directory
          ⟨anchor, (name :: outer).reverse⟩ with
      | ok location =>
          refine makeDirectory_succeeds faultless (fun failure known => by simp [known])
            handedWhole leads fun content file => ?_
          exact unblocked _ (Path.mem_upward_self _) ⟨content, location, leads, file⟩
      | error cause =>
          rcases resolve_error_of_isShort short leads with rfl | ⟨other, above, file⟩
          · rw [Work.perform_run_tryCatch, perform_makeDirectory faultless handedWhole, leads]
            simp only [Except.bind, FileFailure.isNotFound, decide_true, if_true]
            -- What is missing is above, so it is made first, and then there is one more try.
            have made := @inductionHypothesis { workspace with calls := workspace.calls + 1 }
              grounded home plainOuter handedOuter
              (short.of_prefix (by simp))
              fun other above => unblocked other (by
                rw [Path.upward_cons]
                exact List.mem_cons_of_mem _ above)
            obtain ⟨furnished, leadsOuter⟩ := Furnishes.makeDirectoriesFrom machine anchor outer
              { workspace with calls := workspace.calls + 1 }
            have noFileThere := unblocked _ (Path.mem_upward_self _)
            rw [List.reverse_cons] at short handedWhole noFileThere ⊢
            obtain ⟨location, leadsThen, noFile⟩ := furnished.exists_resolve_snoc grounded
              (leadsOuter made) (by simpa [eq_comm, and_comm] using plain) short noFileThere
            rw [Work.perform_run_bind, made, ensureDirectory]
            exact makeDirectory_succeeds faultless (fun failure known => by simp [known])
              handedWhole leadsThen noFile
          · exact absurd file (unblocked other above)

/-- Directories are made unless the path cannot be handed over, is too long or is blocked. -/
theorem makeDirectories_eq_ok_iff
    (grounded : workspace.tree.Grounded)
    (home : workspace.tree.isDirectory machine.directory = true)
    (plain : ".." ∉ path.parts) :
    ((makeDirectories path).run.perform machine workspace).1 = .ok () ↔
      holdsNull path.text = false ∧
        path.IsShort ∧
        ∀ other ∈ path.upward, ¬ workspace.tree.EndsAtFile machine.directory other := by
  constructor
  · intro made
    obtain ⟨furnished, leads⟩ := Furnishes.makeDirectories machine path workspace
    refine ⟨?_, (leads made).isShort plain, fun other above =>
      (leads made).not_endsAtFile furnished.within above⟩
    cases handed : holdsNull path.text with
    | false => rfl
    | true =>
        have null : holdsNull (Path.text ⟨path.anchor, path.parts.reverse.reverse⟩) = true := by
          rwa [List.reverse_reverse]
        cases (makeDirectoriesFrom_of_null null).symm.trans made
  · rintro ⟨handed, short, unblocked⟩
    rw [Path.holdsNull_text, List.any_eq_false] at handed
    refine makeDirectoriesFrom_succeeds faultless grounded home path.anchor
      (fun member => plain (List.mem_reverse.1 member))
      (fun name member => by simpa using handed name (List.mem_reverse.1 member)) ?_ ?_
    · rwa [List.reverse_reverse]
    · rwa [List.reverse_reverse]

end Faultless

end FileWork

end GrammarCorpus
