import GrammarCorpus.Proofs.Corpus.Fatality
import GrammarCorpus.Proofs.Files.Resolution

namespace GrammarCorpus

/-!
# The last look at a staging directory

When all files are in place, the staging directory is looked at once more. For a partition
without grammars that is the first look at it, so it fails wherever its path is too long, and
that failure is reported for no directory. It is carried up to the batch, and an output directory
is given for which it happens: one of which the path is as long as is allowed.
-/

open FileTree Work

variable {machine : Machine} {workspace : Workspace} {output : Path}

namespace Store

/--
That look is the first one at the staging directory when there is no grammar to store; so then
it fails wherever the path of that directory is too long.
-/
theorem persist_unseen
    {workspace : Workspace}
    {partition : Partition}
    (short : output.IsShort)
    (handed : FileWork.holdsNull (stagingOf machine workspace output).text = false)
    (long : pathLimit < (stagingOf machine workspace output).text.utf8ByteSize)
    (empty : partition.contents = []) :
    ((persist partition output).run.perform machine workspace).1 =
      .error (.file (.failed {
        cause := .nameTooLong
        path := (stagingOf machine workspace output).text })) := by
  obtain ⟨created, found, -⟩ := (FileWork.missing_of_isShort short).exists_ok workspace
  have seen : ∀ tree : FileTree,
      tree.lookAt machine.directory (stagingOf machine workspace output) =
        .error (.failed {
          cause := .nameTooLong
          path := (stagingOf machine workspace output).text }) := by
    intro tree
    simp only [lookAt, handed, resolve, if_pos long, Bool.false_eq_true, if_false]
    rfl
  rw [perform_persist_of_none found (attempt_of_empty empty created) rfl rfl, seen]

end Store

/-- A first step that fails leaves its failure. -/
theorem Work.perform_run_bind_of_error
    {ε α β : Type}
    {work : ExceptT ε Work α}
    {next : α → ExceptT ε Work β}
    {failure : ε}
    (fails : (work.run.perform machine workspace).1 = .error failure) :
    ((work >>= next).run.perform machine workspace).1 = .error failure := by
  rw [perform_run_bind, fails]

/-- Work in a scratch directory fails like the work itself. -/
theorem Scratch.perform_within_of_error
    {ε α : Type}
    {blame : String → FileFailure → ε}
    {parent : Option String}
    {work : Path → ExceptT ε Work α}
    {made : Except FileFailure Path × Workspace}
    {scratch : Path}
    {failure : ε}
    (makes : (make (parent.getD machine.temporary) attempts).run.perform machine workspace = made)
    (isMade : made.1 = .ok scratch)
    (fails : ((work scratch).run.perform machine made.2).1 = .error failure) :
    ((within blame parent work).run.perform machine workspace).1 = .error failure := by
  unfold within
  simp only [perform_run_bind, perform_run_lift, perform_read, makes]
  rw [isMade]
  simp only [perform_run_bind, perform_run_lift]
  rw [fails]
  rfl

/-- A batch without trials fails with the last look, if the staging directory cannot be seen. -/
theorem Batch.perform_runWith_unseen
    {parent : Option String}
    {made : Except FileFailure Path × Workspace}
    {scratch : Path}
    (short : output.IsShort)
    (handed : FileWork.holdsNull output.text = false)
    (isName : ∀ number, Path.IsName (machine.names number))
    (long : ∀ number,
      pathLimit < (output.child (".staging-" ++ machine.names number)).text.utf8ByteSize)
    (makes : (Scratch.make (parent.getD machine.temporary) Scratch.attempts).run.perform
      machine workspace = made)
    (isMade : made.1 = .ok scratch)
    (attempt : Attempt)
    (size : Int) :
    ∃ failure : Failure,
      failure.IsUnseen machine output ∧
        ((runWith attempt parent size 0 output 1).run.perform machine workspace).1 =
          .error failure := by
  have handedStaging : FileWork.holdsNull (Store.stagingOf machine made.2 output).text = false :=
    Path.holdsNull_child handed (Delivery.isName_staging (isName _))
  have empty : (Partition.ofResults size 0 []).contents = [] := rfl
  have unseen := Store.persist_unseen short handedStaging (long made.2.named) empty
  refine ⟨_, ⟨made.2.named, fun seen => Nat.not_lt.2 seen.whole (long _), rfl⟩, ?_⟩
  -- There are no trials to be made, so the work begins with storing the empty partition.
  have begins : work attempt size 0 output 1 scratch = do
      let _ ← Store.persist (.ofResults size 0 []) output
      return .ofResults size 0 [] := rfl
  rw [runWith_eq]
  refine perform_run_bind_of_error (Scratch.perform_within_of_error makes isMade ?_)
  rw [begins]
  exact perform_run_bind_of_error unseen

namespace Path

/-- A path of so many names of one letter. -/
def deep (depth : Nat) : Path :=
  ⟨.root, List.replicate depth "n"⟩

/-- The names of a deep path are names. -/
theorem isName_of_mem_deep {depth : Nat} : ∀ part ∈ (deep depth).parts, IsName part := by
  have isName : IsName "n" := by
    refine isName_of_forall (by decide) ?_
    intro character isLetter
    obtain rfl : character = 'n' := by simpa using isLetter
    decide
  intro part member
  rw [List.eq_of_mem_replicate member]
  exact isName

/-- The text of a deep path begins with a slash. -/
theorem head?_deep (depth : Nat) : (deep depth).text.toList.head? = some '/' := by
  have absolute : (deep depth).anchor ≠ .relative := nofun
  have slash : Anchor.root.text.toList = ['/'] := rfl
  rw [text_of_absolute absolute, String.toList_append]
  change (Anchor.root.text.toList ++ _).head? = _
  rw [slash, List.singleton_append, List.head?_cons]

/-- A deep path is read from its text. -/
theorem ofText_deep (depth : Nat) : ofText (deep depth).text = deep depth :=
  ofText_text nofun isName_of_mem_deep

/-- A deep path takes two bytes for each of its names. -/
theorem utf8ByteSize_deep {depth : Nat} (some : depth ≠ 0) :
    (deep depth).text.utf8ByteSize = 2 * depth := by
  have letter : "n".utf8ByteSize + 1 = 2 := by decide
  have whole := @utf8ByteSize_text_root (deep depth).parts (by simpa [deep] using some)
  rw [deep] at whole ⊢
  rw [whole, List.map_replicate, List.sum_replicate_nat, letter, Nat.mul_comm]

/-- With a name behind it, it takes the bytes of that name as well. -/
theorem utf8ByteSize_deep_child {name : String} (isName : IsName name) (depth : Nat) :
    ((deep depth).child name).text.utf8ByteSize = 2 * depth + name.utf8ByteSize + 1 := by
  have letter : "n".utf8ByteSize + 1 = 2 := by decide
  rw [child_isName isName, deep, utf8ByteSize_text_root (by simp), List.map_append,
    List.sum_append, List.map_replicate, List.sum_replicate_nat, letter, Nat.mul_comm]
  rfl

/-- A deep path can be handed over. -/
theorem holdsNull_deep (depth : Nat) : FileWork.holdsNull (deep depth).text = false := by
  rw [holdsNull_text, List.any_eq_false]
  intro part member
  rw [isName_of_mem_deep part member |>.noNull]
  exact Bool.false_ne_true

/-- A deep path is not too long if that is allowed for two bytes for each of its names. -/
theorem isShort_deep {depth : Nat} (some : depth ≠ 0) (whole : 2 * depth ≤ pathLimit) :
    (deep depth).IsShort := by
  refine ⟨utf8ByteSize_deep some ▸ whole, fun part member => ?_⟩
  rw [List.eq_of_mem_replicate member]
  unfold Short
  decide

end Path

end GrammarCorpus
