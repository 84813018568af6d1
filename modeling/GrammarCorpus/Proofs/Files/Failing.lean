import GrammarCorpus.Proofs.Failing
import GrammarCorpus.Proofs.Files.PathReading

namespace GrammarCorpus

/-!
# How operations on files fail

On paths that can be handed over, operations on files fail with calls of the file system and in
no other way. Looking at a path fails only if the path is too long, in whole or in a part: all
other causes say that there is nothing to be seen.
-/

open FileTree Work

/-- A path that is not too long to be followed, and has no part that is too long for a name. -/
structure Path.IsShort (path : Path) : Prop where
  whole : path.text.utf8ByteSize ≤ pathLimit
  parts : ∀ part ∈ path.parts, Short part

/-- A path can be measured. -/
instance (path : Path) : Decidable path.IsShort :=
  decidable_of_iff
    (path.text.utf8ByteSize ≤ pathLimit ∧ ∀ part ∈ path.parts, part.utf8ByteSize ≤ nameLimit)
    ⟨fun measured => ⟨measured.1, measured.2⟩, fun short => ⟨short.whole, short.parts⟩⟩

/-- On the way up to its start, a path that can be followed gets no longer than is allowed. -/
theorem Path.text_le_pathLimit
    {anchor : Anchor}
    {known parts : List String}
    (inside : known <+: parts)
    (whole : (Path.text ⟨anchor, parts⟩).utf8ByteSize ≤ pathLimit) :
    (Path.text ⟨anchor, known⟩).utf8ByteSize ≤ pathLimit := by
  cases known with
  | nil => cases anchor <;> decide
  | cons part others =>
      obtain ⟨more, rfl⟩ := inside
      exact Nat.le_trans (Path.utf8ByteSize_text_le_append (by simp) anchor more) whole

/-- Above a path that is not too long, no path is. -/
theorem Path.IsShort.of_prefix
    {anchor : Anchor}
    {known parts : List String}
    (short : Path.IsShort ⟨anchor, parts⟩)
    (inside : known <+: parts) :
    Path.IsShort ⟨anchor, known⟩ :=
  ⟨Path.text_le_pathLimit inside short.whole,
    fun part member => short.parts part (inside.subset member)⟩

/-- A failure of a call of the file system. -/
def FileFailure.IsCall : FileFailure → Prop
  | failed _ => True
  | nullInPath => False

namespace FileTree

variable {tree : FileTree} {directory location : Location} {cause : SystemError} {path : Path}

/-- A walk ends before its end at a missing place, at a file, or at a name that is too long. -/
theorem walk_error_cases
    {parts : List String}
    (fails : tree.walk location parts = .error cause) :
    cause.isAbsence = true ∨ cause = .nameTooLong ∧ ¬ ∀ part ∈ parts, Short part := by
  obtain ⟨known, part, more, place, rfl, -, stops⟩ := exists_of_walk_error fails
  rcases enter_error_cases stops with rfl | ⟨rfl, -⟩ | ⟨rfl, -, long⟩
  · exact .inl (by decide)
  · exact .inl (by decide)
  · exact .inr ⟨rfl, fun short => long (short part (by simp))⟩

/-- So a path that leads nowhere is too long, or its way is missing. -/
theorem resolve_error_cases (fails : tree.resolve directory path = .error cause) :
    cause.isAbsence = true ∨ cause = .nameTooLong ∧ ¬ path.IsShort := by
  unfold resolve at fails
  split at fails
  · rename_i long
    cases fails
    exact .inr ⟨rfl, fun short => Nat.not_le.2 long short.whole⟩
  · refine (walk_error_cases fails).imp_right ?_
    rintro ⟨tooLong, long⟩
    exact ⟨tooLong, fun short => long short.parts⟩

/-- What cannot be looked at is too long. -/
theorem lookAt_error
    {failure : FileFailure}
    (fails : tree.lookAt directory path = .error failure) :
    ¬ path.IsShort ∧ failure = .failed { cause := .nameTooLong, path := path.text } := by
  unfold lookAt at fails
  split at fails
  · cases fails
  · cases leads : tree.resolve directory path with
    | ok location =>
        rw [leads] at fails
        cases fails
    | error cause =>
        simp only [leads] at fails
        split at fails
        · cases fails
        · rename_i present
          obtain ⟨rfl, long⟩ := (resolve_error_cases leads).resolve_left present
          cases fails
          exact ⟨long, rfl⟩

end FileTree

namespace Path

variable {path other : Path} {name : String}

/-- A path with parts of another one can be handed over if that one can. -/
theorem holdsNull_of_subset
    (handed : FileWork.holdsNull path.text = false)
    (inside : other.parts ⊆ path.parts) :
    FileWork.holdsNull other.text = false := by
  rw [holdsNull_text, List.any_eq_false] at handed ⊢
  exact fun part member => handed part (inside member)

/-- A path that goes on with another part can be handed over if both can. -/
theorem holdsNull_snoc
    (handed : FileWork.holdsNull path.text = false)
    (noNull : FileWork.holdsNull name = false) :
    FileWork.holdsNull (text { path with parts := path.parts ++ [name] }) = false := by
  rw [holdsNull_text] at handed ⊢
  rw [List.any_append, handed]
  simpa using noNull

/-- A path that goes on with a name can be handed over. -/
theorem holdsNull_child
    (handed : FileWork.holdsNull path.text = false)
    (isName : IsName name) :
    FileWork.holdsNull (path.child name).text = false := by
  rw [child_isName isName]
  exact holdsNull_snoc handed isName.noNull

/-- The directory above can be handed over. -/
theorem holdsNull_parent (handed : FileWork.holdsNull path.text = false) :
    FileWork.holdsNull path.parent.text = false :=
  holdsNull_of_subset handed (List.dropLast_subset _)

end Path

namespace FileWork

variable {machine : Machine} {path target : Path}

/-- What is looked at is seen, unless it is too long. -/
theorem isThere_fails :
    FailsOnly machine
      (fun failure => ¬ path.IsShort ∧
        failure = .failed { cause := .nameTooLong, path := path.text })
      (isThere path) := by
  intro workspace _
  refine ⟨trivial, ?_⟩
  rw [perform_isThere]
  cases seen : workspace.tree.lookAt machine.directory path with
  | ok entry => trivial
  | error failure => exact lookAt_error seen

/-- Whether a path leads to a directory is seen, unless a call fails. -/
theorem isDirectory_fails : FailsOnly machine FileFailure.IsCall (isDirectory path) := by
  intro workspace _
  refine ⟨trivial, ?_⟩
  rw [perform_isDirectory]
  cases seen : workspace.tree.lookAt machine.directory path with
  | ok entry => trivial
  | error failure =>
      obtain ⟨-, rfl⟩ := lookAt_error seen
      trivial

/-- The missing paths above a path are found, unless one of them is too long. -/
theorem missingFrom_fails (anchor : Anchor) (names : List String) :
    FailsOnly machine
      (fun failure => failure.IsCall ∧
        ∃ known, known ≠ [] ∧ known <+: names.reverse ∧ ¬ Path.IsShort ⟨anchor, known⟩)
      (missingFrom anchor names) := by
  induction names with
  | nil => exact .pure trivial
  | cons name outer inductionHypothesis =>
      rw [missingFrom]
      refine (isThere_fails.mono ?_).andThen fun found => ?_
      · rintro failure ⟨long, rfl⟩
        exact ⟨trivial, _, by simp, List.prefix_refl _, long⟩
      · split
        · exact .pure trivial
        · refine (inductionHypothesis.mono ?_).andThen fun above => .pure trivial
          rintro failure ⟨isCall, known, some, inside, long⟩
          refine ⟨isCall, known, some, ?_, long⟩
          rw [List.reverse_cons]
          exact inside.trans (List.prefix_append _ _)

/-- Looking for missing paths fails with calls only. -/
theorem missing_fails : FailsOnly machine FileFailure.IsCall (missing path) :=
  (missingFrom_fails _ _).mono fun _ fails => fails.1

/-- Looking for missing paths does not fail for a path that is not too long. -/
theorem missing_of_isShort (short : path.IsShort) :
    FailsOnly machine (fun _ => False) (missing path) := by
  refine (missingFrom_fails _ _).mono ?_
  rintro failure ⟨-, known, -, inside, long⟩
  rw [List.reverse_reverse] at inside
  exact long (short.of_prefix inside)

/-- A step on texts that can be handed over fails with a call. -/
theorem reporting_fails
    {handed : String}
    {second : Option String}
    (noNull : holdsNull handed = false)
    (noNullSecond : second.any holdsNull = false)
    (step : Work (Option SystemError)) :
    FailsOnly machine FileFailure.IsCall (reporting handed second step) := by
  intro workspace _
  refine ⟨trivial, ?_⟩
  rw [perform_reporting, noNull, noNullSecond]
  cases (step.perform machine workspace).1 <;> trivial

/-- Making a directory fails with a call. -/
theorem makeDirectory_fails (handed : holdsNull path.text = false) :
    FailsOnly machine FileFailure.IsCall (makeDirectory path) :=
  reporting_fails handed rfl _

/-- A failure that is not taken back was a call, or looking at the path fails. -/
theorem unlessDirectory_fails {failure : FileFailure} (isCall : failure.IsCall) :
    FailsOnly machine FileFailure.IsCall (unlessDirectory path failure) := by
  refine isDirectory_fails.andThen fun found => ?_
  split
  · exact .pure trivial
  · exact .throw isCall

/-- Making a directory where nothing above it is missing fails with calls only. -/
theorem ensureDirectory_fails (handed : holdsNull path.text = false) :
    FailsOnly machine FileFailure.IsCall (ensureDirectory path) := by
  refine (makeDirectory_fails handed).tryCatch fun failure isCall => ?_
  split
  · exact .throw isCall
  · exact unlessDirectory_fails isCall

/-- Making a directory and those above it fails with calls only. -/
theorem makeDirectoriesFrom_fails
    (anchor : Anchor)
    {names : List String}
    (noNull : ∀ name ∈ names, holdsNull name = false) :
    FailsOnly machine FileFailure.IsCall (makeDirectoriesFrom anchor names) := by
  have handed : ∀ {inner : List String}, inner ⊆ names →
      holdsNull (Path.text ⟨anchor, inner.reverse⟩) = false := by
    intro inner inside
    rw [Path.holdsNull_text, List.any_reverse, List.any_eq_false]
    intro name member
    rw [noNull name (inside member)]
    exact Bool.false_ne_true
  induction names with
  | nil =>
      have start := handed (List.Subset.refl [])
      rw [List.reverse_nil] at start
      rw [makeDirectoriesFrom]
      exact ensureDirectory_fails start
  | cons name outer inductionHypothesis =>
      obtain ⟨-, noNullOuter⟩ := List.forall_mem_cons.1 noNull
      have whole := handed (List.Subset.refl _)
      have makingOuter := inductionHypothesis noNullOuter fun inside =>
        handed (List.subset_cons_of_subset _ inside)
      rw [makeDirectoriesFrom]
      refine (makeDirectory_fails whole).tryCatch fun failure isCall => ?_
      split
      -- What is above was missing: it is made, and then there is one more try.
      · exact makingOuter.andThen fun _ => ensureDirectory_fails whole
      · exact unlessDirectory_fails isCall

/-- So it does for a path that can be handed over. -/
theorem makeDirectories_fails (handed : holdsNull path.text = false) :
    FailsOnly machine FileFailure.IsCall (makeDirectories path) := by
  refine makeDirectoriesFrom_fails path.anchor fun name member => ?_
  rw [Path.holdsNull_text, List.any_eq_false] at handed
  simpa using handed name (List.mem_reverse.1 member)

/-- Writing a file fails with a call. -/
theorem write_fails (handed : holdsNull path.text = false) (text : String) :
    FailsOnly machine FileFailure.IsCall (write path text) :=
  reporting_fails handed rfl _

/-- Moving a file fails with a call. -/
theorem move_fails
    (handed : holdsNull path.text = false)
    (handedTarget : holdsNull target.text = false) :
    FailsOnly machine FileFailure.IsCall (move path target) := by
  have noNull : (some target.text).any holdsNull = false := handedTarget
  exact reporting_fails handed noNull _

/-- Removing a directory with all that is below it fails with a call. -/
theorem removeTree_fails (handed : holdsNull path.text = false) :
    FailsOnly machine FileFailure.IsCall (removeTree path) :=
  reporting_fails handed rfl _

end FileWork

end GrammarCorpus
