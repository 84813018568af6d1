import GrammarCorpus.Proofs.Corpus.Judging
import GrammarCorpus.Proofs.Corpus.Layout
import GrammarCorpus.Proofs.Files.Opening
import Mathlib.Data.List.Nodup

namespace GrammarCorpus

/-!
# Work in a directory of its own

Some work makes a directory and puts files right into it, and nothing else. The files are
followed through its steps as a list, the latest first. A later file may take the place of an
earlier one of the same name, so a name stands for one of the contents that were put there
under it.

`Work.Collects` says so of work that may fail: the directory holds what was put there until the
failure, and only a value tells which files these are.
-/

open FileTree Work

namespace FileTree

variable {old older tree later : FileTree} {directory place location : Location} {path : Path}
variable {files others : List (String × ByteArray)} {name : String}

/-- A name and a text as they stand in a tree. -/
def encoded (sheet : String × String) : String × ByteArray :=
  (sheet.1, sheet.2.toUTF8)

/--
A path leads to a directory, files have been put into it, and a tree differs from an older one
in these and in the directory itself only.
-/
structure Collected
    (old : FileTree)
    (directory : Location)
    (path : Path)
    (place : Location)
    (files : List (String × ByteArray))
    (tree : FileTree) : Prop where
  leads : tree.endOf directory path = .ok place
  isDirectory : tree.isDirectory place = true
  stands : ∀ item ∈ files, ∃ content,
    (item.1, content) ∈ files ∧ tree.find? (item.1 :: place) = some (.file content)
  nothingElse : ∀ location,
    location ≠ place →
      (∀ item ∈ files, location ≠ item.1 :: place) →
      tree.find? location = old.find? location

namespace Collected

/-- One more file is put into the directory, in place of nothing or of a file. -/
theorem insert
    (collected : Collected old directory path place files tree)
    (content : ByteArray)
    (noDirectory : tree.isDirectory (name :: place) = false) :
    Collected old directory path place ((name, content) :: files)
      (tree.insert (name :: place) (.file content)) := by
  have found : ∀ query, (tree.insert (name :: place) (.file content)).find? query =
      if query = name :: place then some (.file content) else tree.find? query :=
    find?_insert_below (List.cons_ne_nil _ _) _
  refine {
    leads := walk_insert collected.leads noDirectory
    isDirectory := ?_
    stands := ?_
    nothingElse := ?_ }
  · rw [FileTree.isDirectory, found, if_neg (List.cons_ne_self _ _).symm]
    exact collected.isDirectory
  · intro item member
    by_cases same : item.1 = name
    · exact ⟨content, by rw [same]; exact List.mem_cons_self, by rw [found, same, if_pos rfl]⟩
    · have earlier : item ∈ files := by
        refine (List.mem_cons.1 member).resolve_left ?_
        rintro rfl
        exact same rfl
      obtain ⟨other, isOther, stands⟩ := collected.stands item earlier
      refine ⟨other, List.mem_cons_of_mem _ isOther, ?_⟩
      rw [found, if_neg]
      · exact stands
      · exact fun equal => same (List.cons.inj equal).1
  · intro location elsewhere unnamed
    rw [found, if_neg (unnamed _ List.mem_cons_self)]
    exact collected.nothingElse location elsewhere
      fun item member => unnamed item (List.mem_cons_of_mem _ member)

/-- A path that goes on with a name leads right into the directory. -/
theorem eq_of_resolve
    (collected : Collected old directory path place files tree)
    (plain : name ≠ "..")
    (leads : tree.resolve directory { path with parts := path.parts ++ [name] } = .ok location) :
    location = name :: place := by
  have straight : ".." ∉ [name] := fun member => plain (List.mem_singleton.1 member).symm
  simpa using eq_of_resolve_beyond collected.leads straight leads

end Collected

namespace Founded

end Founded

end FileTree

namespace Work

variable {α β ε δ : Type} {machine : Machine} {path : Path} {place : Location}
variable {given : α → List (String × ByteArray) → Prop}
variable {conclusion : β → List (String × ByteArray) → Prop}

/--
Work that puts files into a directory and changes nothing else. If it comes to a value, some
things are given about the value and the files.
-/
def Collects
    (machine : Machine)
    (path : Path)
    (place : Location)
    (given : α → List (String × ByteArray) → Prop)
    (work : ExceptT ε Work α) : Prop :=
  ∀ old files workspace,
    Collected old machine.directory path place files workspace.tree →
      ∃ more,
        Collected old machine.directory path place (more ++ files)
            (work.run.perform machine workspace).2.tree ∧
          ∀ value, (work.run.perform machine workspace).1 = .ok value → given value more

namespace Collects

/-- A value changes nothing. -/
theorem pure {value : α} (holds : given value []) :
    Collects machine path place given (Pure.pure value : ExceptT ε Work α) := by
  intro old files workspace collected
  refine ⟨[], collected, ?_⟩
  rintro _ ⟨⟩
  exact holds

/-- A failure changes nothing. -/
theorem throw (failure : ε) :
    Collects machine path place given (MonadExcept.throw failure : ExceptT ε Work α) :=
  fun _ _ _ collected => ⟨[], collected, nofun⟩

/-- What is given may be put in other words. -/
theorem mono
    {work : ExceptT ε Work α}
    {other : α → List (String × ByteArray) → Prop}
    (collects : Collects machine path place given work)
    (implies : ∀ value more, given value more → other value more) :
    Collects machine path place other work := by
  intro old files workspace collected
  obtain ⟨more, after, holds⟩ := collects old files workspace collected
  exact ⟨more, after, fun value ended => implies value more (holds value ended)⟩

/-- The files of the second step come on top of those of the first one. -/
theorem bind
    {work : ExceptT ε Work α}
    {next : α → ExceptT ε Work β}
    (first : Collects machine path place given work)
    (second : ∀ value added, given value added →
      Collects machine path place (fun result more => conclusion result (more ++ added))
        (next value)) :
    Collects machine path place conclusion (work >>= next) := by
  intro old files workspace collected
  obtain ⟨added, between, holds⟩ := first old files workspace collected
  rw [perform_run_bind]
  cases ended : (work.run.perform machine workspace).1 with
  | error failure => exact ⟨added, between, nofun⟩
  | ok value =>
      obtain ⟨more, after, concluded⟩ := second value added (holds value ended) old _ _ between
      exact ⟨more ++ added, by rw [List.append_assoc]; exact after, concluded⟩

/-- Failures may get another name. -/
theorem adapt
    {rename : ε → δ}
    {work : ExceptT ε Work α}
    (collects : Collects machine path place given work) :
    Collects machine path place given (ExceptT.adapt rename work) := by
  intro old files workspace collected
  obtain ⟨more, after, holds⟩ := collects old files workspace collected
  rw [perform_run_adapt]
  refine ⟨more, after, fun value ended => holds value ?_⟩
  cases shape : (work.run.perform machine workspace).1 with
  | error failure =>
      rw [shape] at ended
      cases ended
  | ok other =>
      rw [shape] at ended
      cases ended
      rfl

/-- Writing a file puts that file into the directory. -/
theorem write {name : String} (plain : name ≠ "..") (text : String) :
    Collects machine path place (fun _ more => more = [encoded (name, text)])
      (FileWork.write { path with parts := path.parts ++ [name] } text) := by
  intro old files workspace collected
  rcases FileWork.write_cases machine workspace { path with parts := path.parts ++ [name] } text
    with ⟨failure, fails, same⟩ | ⟨location, content, leads, noDirectory, inserted, whole⟩
  · refine ⟨[], ?_, fun value ended => nomatch fails.symm.trans ended⟩
    rw [same]
    exact collected
  · obtain rfl := collected.eq_of_resolve plain leads
    refine ⟨[(name, content)], ?_, fun value ended => ?_⟩
    · rw [inserted]
      exact collected.insert content noDirectory
    · rw [whole ended]
      rfl

/-- Work for each role puts files into the directory for each of them. -/
theorem build
    {make : Role → ExceptT ε Work α}
    {fed : Role → List (String × ByteArray) → Prop}
    (each : ∀ role, Collects machine path place (fun _ more => fed role more) (make role)) :
    Collects machine path place
      (fun _ more => ∃ parts : PerRole (List (String × ByteArray)),
        (∀ role, fed role (parts.get role)) ∧ ∀ item, item ∈ more ↔ ∃ role, item ∈ parts.get role)
      (PerRole.build make) := by
  refine bind (each .strict) fun _ strict isStrict => ?_
  refine bind (each .relaxed) fun _ relaxed isRelaxed => ?_
  refine bind (each .reference) fun _ reference isReference => ?_
  refine pure ⟨⟨strict, relaxed, reference⟩, fun role => ?_, fun item => ?_⟩
  · cases role with
    | strict => exact isStrict
    | relaxed => exact isRelaxed
    | reference => exact isReference
  · simp only [List.nil_append, List.mem_append]
    constructor
    · rintro ((inReference | inRelaxed) | inStrict)
      · exact ⟨.reference, inReference⟩
      · exact ⟨.relaxed, inRelaxed⟩
      · exact ⟨.strict, inStrict⟩
    · rintro ⟨role, member⟩
      cases role with
      | strict => exact .inr member
      | relaxed => exact .inl (.inr member)
      | reference => exact .inl (.inl member)

end Collects

section Engines

variable {old : FileTree} {files : List (String × ByteArray)} {workspace : Workspace}

end Engines

end Work

end GrammarCorpus
