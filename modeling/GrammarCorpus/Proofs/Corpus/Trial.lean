import GrammarCorpus.Proofs.Corpus.Judging
import GrammarCorpus.Proofs.Corpus.Scratch
import GrammarCorpus.Proofs.Mersenne
import GrammarCorpus.Proofs.Rendering

namespace GrammarCorpus

/-!
# What a trial comes to

A trial writes into a directory of its own below the scratch directory, under names that
begin with the number of the trial; and what engines leave lies beside. So everything new
stays in the scratch directory, however the trial ends. The text of its result, if there
is one, is a rendering of the right size.
-/

open FileTree Work

/-- What engines leave beside a grammar has names that can stand in a tree. -/
def Machine.Allows (machine : Machine) (engines : Engines) : Prop :=
  ∀ role text, ∀ item ∈ (engines role text).leaves, machine.Spent 0 item.1

namespace ScratchDirectory

variable {machine : Machine} {old : FileTree} {first : Nat}
variable (scratch : ScratchDirectory machine old)

/-- The directory of a trial. -/
def trialPath (trial : Int) : Path :=
  scratch.site.path [scratch.name, toString trial]

/-- A file of a trial. -/
def filePath (trial : Int) (ending : String) : Path :=
  scratch.site.path [scratch.name, toString trial, toString trial ++ "." ++ ending]

/-- What the files of a trial may end with. -/
def IsEnding (ending : String) : Prop :=
  '/' ∉ ending.toList ∧ FileWork.holdsNull ending = false

variable {scratch}

/-- The directory of a trial is named by its number. -/
theorem child_path (trial : Int) :
    scratch.path.child (toString trial) = scratch.trialPath trial := by
  rw [Path.child_isName (Path.isName_toString trial)]
  simp [trialPath, path, Site.path]

/-- A file of a trial is named by the number of the trial. -/
theorem child_trialPath (trial : Int) {ending : String} (isEnding : IsEnding ending) :
    (scratch.trialPath trial).child (toString trial ++ "." ++ ending) =
      scratch.filePath trial ending := by
  rw [Path.child_isName (Path.isName_numbered trial isEnding.1 isEnding.2)]
  simp [trialPath, filePath, Site.path]

/-- The names of a trial are not reserved if those of the scratch directory are not. -/
theorem unreserved_trialPath
    {trial : Int}
    (avoids : machine.Avoids trial)
    (unreserved : scratch.path.Unreserved machine first) :
    (scratch.trialPath trial).Unreserved machine first := by
  rw [← child_path]
  exact unreserved.child (Path.isName_toString trial) avoids.spent

/-- The names of a file of a trial are not reserved. -/
theorem unreserved_filePath
    {trial : Int}
    {ending : String}
    (apart : machine.NamesApart)
    (avoids : machine.Avoids trial)
    (unreserved : scratch.path.Unreserved machine first)
    (isEnding : IsEnding ending) :
    (scratch.filePath trial ending).Unreserved machine first := by
  rw [← child_trialPath trial isEnding]
  exact (unreserved_trialPath avoids unreserved).child
    (Path.isName_numbered trial isEnding.1 isEnding.2)
    (apart.spent_numbered trial isEnding.2)

/-- The directory of a trial may be made. -/
theorem admits_trialPath
    {trial : Int}
    (avoids : machine.Avoids trial)
    (unreserved : scratch.path.Unreserved machine first) :
    Admits machine (scratch.Contains first) (scratch.trialPath trial) := by
  refine admits (List.cons_ne_nil _ _) ?_ (unreserved_trialPath avoids unreserved)
  exact fun member => (Path.isName_toString trial).notTwoPoints (List.mem_singleton.1 member).symm

/-- A file of a trial may be written. -/
theorem admits_filePath
    {trial : Int}
    {ending : String}
    (apart : machine.NamesApart)
    (avoids : machine.Avoids trial)
    (unreserved : scratch.path.Unreserved machine first)
    (isEnding : IsEnding ending) :
    Admits machine (scratch.Contains first) (scratch.filePath trial ending) := by
  refine admits (List.cons_ne_nil _ _) ?_ (unreserved_filePath apart avoids unreserved isEnding)
  intro member
  rcases List.mem_cons.1 member with isTrial | isFile
  · exact (Path.isName_toString trial).notTwoPoints isTrial.symm
  · exact (Path.isName_numbered trial isEnding.1 isEnding.2).notTwoPoints
      (List.mem_singleton.1 isFile).symm

/-- What an engine leaves lies in a directory in the scratch directory. -/
theorem leave_keeps
    {location : Location}
    {item : String × ByteArray}
    (inside : scratch.place <:+ location.tail)
    (spent : machine.Spent 0 item.1) :
    Keeps machine
      (fun workspace => scratch.Contains first workspace ∧
        workspace.tree.isDirectory location.tail = true)
      (fun _ => True) (leave location item) := by
  refine .of_forall fun workspace ⟨contains, above⟩ => ?_
  have shape : ((leave location item).perform machine workspace).2 =
      ((Work.change (·.writeFile (item.1 :: location.tail) item.2)).perform machine workspace).2 :=
    rfl
  rw [shape, perform_change]
  cases taken : workspace.tree.isDirectory (item.1 :: location.tail) with
  | true =>
      rw [FileTree.writeFile, if_pos taken]
      exact ⟨contains, above⟩
  | false =>
      rw [FileTree.writeFile, taken, if_neg Bool.false_ne_true]
      dsimp only
      refine ⟨⟨?_, ?_⟩, ?_⟩
      · refine contains.tidy.insert (List.cons_ne_nil _ _) ?_ rfl rfl
        intro name member
        rcases List.mem_cons.1 member with rfl | beside
        · exact spent.of_le (Nat.zero_le _)
        · exact contains.tidy.spent _ (contains_of_isDirectory above) name beside
      · refine contains.holds.insert (inside.trans (List.suffix_cons _ _)) ?_ above taken
        intro same
        have lengths := inside.length_le
        rw [← same, List.length_cons] at lengths
        exact Nat.not_succ_le_self _ lengths
      · rw [isDirectory_iff, find?_insert_below (List.cons_ne_nil _ _), if_neg]
        · exact isDirectory_iff.1 above
        · exact fun same => List.cons_ne_self _ _ same.symm

/-- An engine that is waited for leaves everything in the scratch directory. -/
theorem await_keeps
    (allows : machine.Allows machine.engines)
    (role : Role)
    (trial : Int)
    {ending : String}
    (isEnding : IsEnding ending) :
    Keeps machine (scratch.Contains first) (fun _ => True)
      (await role (scratch.filePath trial ending)) := by
  refine .of_forall fun workspace contains => ?_
  unfold await
  simp only [perform_bind, perform_read, perform_locate]
  cases leads : workspace.tree.resolve machine.directory (scratch.filePath trial ending) with
  | error cause => exact contains
  | ok location =>
      obtain ⟨others, -, downward, same, -⟩ := scratch.fresh
      cases Site.path_injective same
      have plain : ".." ∉ [toString trial, toString trial ++ "." ++ ending] := by
        intro member
        rcases List.mem_cons.1 member with isTrial | isFile
        · exact (Path.isName_toString trial).notTwoPoints isTrial.symm
        · exact (Path.isName_numbered trial isEnding.1 isEnding.2).notTwoPoints
            (List.mem_singleton.1 isFile).symm
      obtain ⟨rfl, -, above⟩ := scratch.site.eq_place_of_resolve contains.holds.within
        (List.cons_ne_nil _ _) (downward.append plain) leads
      have inside : scratch.place <:+
          (scratch.site.place [scratch.name, toString trial,
            toString trial ++ "." ++ ending]).tail :=
        List.suffix_cons _ _
      simp only [perform_bind, perform_get, perform_pure]
      refine (Keeps.forM (fun item member => leave_keeps inside ?_) _ ⟨contains, above⟩).1.1
      exact allows _ _ item member

/-- So does an engine that is started, whether the launch is refused or not. -/
theorem start_keeps
    (allows : machine.Allows machine.engines)
    (role : Role)
    (launch : Launch)
    (trial : Int)
    {ending : String}
    (isEnding : IsEnding ending) :
    Keeps machine (scratch.Contains first) (fun _ => True)
      (start role launch (scratch.filePath trial ending)) := by
  have launched (workspace : Workspace) (contains : scratch.Contains first workspace) :
      scratch.Contains first (workspace.record launch) :=
    ⟨contains.tidy.of_tree_eq rfl (Nat.le_refl _), contains.holds⟩
  exact (Keeps.start launched (await_keeps allows role trial isEnding)).mono fun _ _ => trivial

end ScratchDirectory

namespace Oracle

variable {machine : Machine} {old : FileTree} {first : Nat}
variable {scratch : ScratchDirectory machine old}

/-- A file in the directory of a trial is a file of the trial. -/
theorem filePath_eq (trial : Int) (ending : String) :
    { scratch.trialPath trial with
      parts := (scratch.trialPath trial).parts ++ [toString trial ++ "." ++ ending] } =
        scratch.filePath trial ending := by
  simp [ScratchDirectory.trialPath, ScratchDirectory.filePath, Site.path]

/-- The file for a grammar is a file of the trial. -/
theorem grammarPath_eq (oracle : Oracle) (trial : Int) :
    oracle.grammarPath (scratch.trialPath trial) (toString trial) =
      scratch.filePath trial (oracle.name ++ ".y") :=
  (grammarPath_eq_parts oracle _ trial).trans (filePath_eq trial _)

/-- All files that are written for an engine are files of the trial. -/
theorem exists_ending
    {oracle : Oracle}
    {grammar : Grammar}
    {trial : Int}
    {text : String}
    {item : Path × String}
    (member : item ∈ (scratch.filePath trial (oracle.name ++ ".y"), text) ::
      oracle.companions grammar (scratch.filePath trial (oracle.name ++ ".y"))) :
    ∃ ending, ScratchDirectory.IsEnding ending ∧ item.1 = scratch.filePath trial ending := by
  rcases List.mem_cons.1 member with rfl | isCompanion
  · exact ⟨_, oracle.name_plain, rfl⟩
  · rw [← grammarPath_eq] at isCompanion
    obtain ⟨ending, plain, -, isBeside⟩ := exists_of_mem_companions isCompanion
    exact ⟨ending, plain, isBeside.trans (filePath_eq trial ending)⟩

/-- Asking an engine leaves everything in the scratch directory. -/
theorem classify_keeps
    {trial : Int}
    (apart : machine.NamesApart)
    (avoids : machine.Avoids trial)
    (allows : machine.Allows machine.engines)
    (unreserved : scratch.path.Unreserved machine first)
    (oracle : Oracle)
    (role : Role)
    (grammar : Grammar) :
    KeepsOrFails machine (scratch.Contains first) (fun _ => True)
      (oracle.classify role grammar (scratch.trialPath trial) (toString trial)) := by
  unfold classify
  rw [grammarPath_eq]
  have writes : KeepsOrFails machine (scratch.Contains first) (fun _ => True)
      (oracle.writeFiles grammar (scratch.filePath trial (oracle.name ++ ".y"))) := by
    unfold writeFiles
    split
    · exact .throw _
    · refine .adapt (.forM fun item member => ?_)
      obtain ⟨ending, isEnding, isFile⟩ := exists_ending member
      rw [isFile]
      exact (ScratchDirectory.admits_filePath apart avoids unreserved isEnding).write _
  have starts : Keeps machine (scratch.Contains first) (fun _ => True)
      (start role (oracle.launch (scratch.filePath trial (oracle.name ++ ".y")))
        (scratch.filePath trial (oracle.name ++ ".y"))) :=
    ScratchDirectory.start_keeps allows role _ trial oracle.name_plain
  refine .bind writes fun _ _ => .bind (.lift starts) fun started _ => ?_
  split
  · exact .throw _
  · split
    · exact .pure trivial
    · exact .throw _

end Oracle

namespace Trial

variable {machine : Machine} {old : FileTree} {first : Nat}
variable {scratch : ScratchDirectory machine old} {config : Config} {size : Int}

/-- Work for each role keeps what it keeps for one. -/
theorem build_keeps
    {α : Type}
    {holds : Workspace → Prop}
    {make : Role → Job α}
    (each : ∀ role, KeepsOrFails machine holds (fun _ => True) (make role)) :
    KeepsOrFails machine holds (fun _ => True) (PerRole.build make) :=
  .bind (each .strict) fun _ _ => .bind (each .relaxed) fun _ _ =>
    .bind (each .reference) fun _ _ => .pure trivial

/-- Looking into a grammar leaves everything in the scratch directory. -/
theorem classify_keeps
    {grammar : Grammar}
    {trial : Int}
    (apart : machine.NamesApart)
    (avoids : machine.Avoids trial)
    (allows : machine.Allows machine.engines)
    (unreserved : scratch.path.Unreserved machine first) :
    KeepsOrFails machine (scratch.Contains first) (fun _ => True)
      (classify config size trial grammar (scratch.trialPath trial)) := by
  have asked : KeepsOrFails machine (scratch.Contains first) (fun _ => True)
      (read : Job Machine) :=
    .of_forall fun _ before => before
  refine .bind asked fun given _ => ?_
  refine .bind (.adapt (ScratchDirectory.admits_trialPath avoids unreserved).makeDirectory)
    fun _ _ => ?_
  exact .bind (build_keeps fun role =>
    Oracle.classify_keeps apart avoids allows unreserved _ role grammar) fun _ _ => .pure trivial

/-- A trial leaves everything in the scratch directory, and its result judges a grammar. -/
theorem run_keeps
    {property : Classified → Prop}
    {trial : Int}
    (apart : machine.NamesApart)
    (avoids : machine.Avoids trial)
    (allows : machine.Allows machine.engines)
    (unreserved : scratch.path.Unreserved machine first)
    (each : ∀ classified grammar, Judges machine config size classified grammar →
      property classified) :
    KeepsOrFails machine (scratch.Contains first)
      (fun found => ∀ classified ∈ found, property classified)
      (run config size scratch.path trial) := by
  have keeps : KeepsOrFails machine (scratch.Contains first) (fun _ => True)
      (run config size scratch.path trial) := by
    unfold run
    split
    · exact .throw _
    · exact .pure trivial
    · rw [ScratchDirectory.child_path]
      refine .bind (.tryCatch (classify_keeps apart avoids allows unreserved) fun failure => ?_)
        fun _ _ => .pure trivial
      split
      · exact .throw _
      · exact .throw _
  intro workspace contains
  refine ⟨(keeps workspace contains).1, ?_⟩
  intro found ended classified isFound
  have mayEnd := run_mayEnd machine config size scratch.path workspace trial
  obtain rfl := Option.mem_def.1 isFound
  rw [ended] at mayEnd
  obtain ⟨-, grammar, judges⟩ := mayEnd
  exact each classified grammar judges

/-- With the standard names, the text of a result is a rendering of the right size. -/
theorem Judges.isRendering
    {classified : Classified}
    {grammar : Grammar}
    (standard : config.IsNamedStandardly)
    (judges : Judges machine config size classified grammar) :
    IsRendering size classified.text := by
  obtain ⟨text, rendered, isRendering⟩ := Config.generated_isRendering standard judges.drawn
  cases rendered.symm.trans judges.rendered
  exact isRendering

end Trial

end GrammarCorpus
