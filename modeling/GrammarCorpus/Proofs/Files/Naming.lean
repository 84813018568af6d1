import GrammarCorpus.Corpus.Partition
import GrammarCorpus.Proofs.Files.PathText
import GrammarCorpus.Proofs.Files.Walk

namespace GrammarCorpus

/-!
# Names that are told apart

New names become names of files, of staging directories and of scratch directories. A
machine reserves these for the numbers that are still to come. All other names of a run
are the texts of classes and of numbers, and those of the files of a trial, which hold a
point; with names that hold neither a point nor a hyphen, nothing that is reserved is
mistaken for any of them. A new name may be a numeral, though: what is asked for is only
that it is none of those that stand for the size or for the trials of a batch.

Where a path leads, there are no other names than those of the path and those of the
place it starts from.
-/

namespace Machine

variable {machine : Machine} {first later : Nat} {name : String}

/-- A name that the machine will give, from a number on, or that will be made of one. -/
def Reserves (machine : Machine) (first : Nat) (name : String) : Prop :=
  ∃ number, first ≤ number ∧
    (name = machine.names number ∨
      name = ".staging-" ++ machine.names number ∨
      name = "cfg-gen-" ++ machine.names number)

/-- A name that can stand in a tree while new names are given from a number on. -/
structure Spent (machine : Machine) (first : Nat) (name : String) : Prop where
  noNull : FileWork.holdsNull name = false
  notReserved : ¬ machine.Reserves first name

/-- The names of the machine differ from each other and from what stands beside them. -/
structure NamesApart (machine : Machine) : Prop where
  isName : ∀ number, Path.IsName (machine.names number)
  distinct : ∀ number later, number < later → machine.names number ≠ machine.names later
  noPoint : ∀ number, '.' ∉ (machine.names number).toList
  noHyphen : ∀ number, '-' ∉ (machine.names number).toList
  notClass : ∀ number (corpusClass : CorpusClass), machine.names number ≠ corpusClass.text

/-- No name of the machine is the text of a number. -/
def Avoids (machine : Machine) (value : Int) : Prop :=
  ∀ number, machine.names number ≠ toString value

/-- What is reserved from a later number on is reserved before. -/
theorem Reserves.of_le
    (reserves : machine.Reserves later name)
    (further : first ≤ later) :
    machine.Reserves first name := by
  obtain ⟨number, begun, same⟩ := reserves
  exact ⟨number, Nat.le_trans further begun, same⟩

/-- What can stand in a tree can do so later. -/
theorem Spent.of_le
    (spent : machine.Spent first name)
    (further : first ≤ later) :
    machine.Spent later name :=
  ⟨spent.noNull, fun reserves => spent.notReserved (reserves.of_le further)⟩

/-- Two texts in front of names are told apart by their first characters. -/
theorem staging_ne_scratch (first second : String) :
    ".staging-" ++ first ≠ "cfg-gen-" ++ second := by
  intro same
  have characters := congrArg String.toList same
  rw [String.toList_append, String.toList_append] at characters
  cases characters

namespace NamesApart

variable (apart : machine.NamesApart)

include apart

/-- Different numbers have different names. -/
theorem injective {number other : Nat} (same : machine.names number = machine.names other) :
    number = other := by
  rcases Nat.lt_trichotomy number other with before | equal | behind
  · exact absurd same (apart.distinct number other before)
  · exact equal
  · exact absurd same.symm (apart.distinct other number behind)

/-- No name begins like those of staging and scratch directories. -/
theorem names_ne (number other : Nat) :
    machine.names number ≠ ".staging-" ++ machine.names other ∧
      machine.names number ≠ "cfg-gen-" ++ machine.names other := by
  refine ⟨?_, ?_⟩ <;>
  · intro same
    have noHyphen := apart.noHyphen number
    rw [same, String.toList_append, List.mem_append, not_or] at noHyphen
    exact noHyphen.1 (by decide)

/-- A name is spent once it is given. -/
theorem spent_names (number : Nat) :
    machine.Spent (number + 1) (machine.names number) := by
  refine ⟨(apart.isName number).noNull, ?_⟩
  rintro ⟨other, begun, same | same | same⟩
  · exact Nat.ne_of_lt begun (apart.injective same)
  · exact (apart.names_ne number other).1 same
  · exact (apart.names_ne number other).2 same

/-- The name of a staging directory is spent once it is given. -/
theorem spent_staging (number : Nat) :
    machine.Spent (number + 1) (".staging-" ++ machine.names number) := by
  refine ⟨?_, ?_⟩
  · rw [Path.holdsNull_append, (apart.isName number).noNull]
    decide
  · rintro ⟨other, begun, same | same | same⟩
    · exact (apart.names_ne other number).1 same.symm
    · exact Nat.ne_of_lt begun (apart.injective ((String.append_right_inj _).1 same))
    · exact staging_ne_scratch _ _ same

/-- The name of a scratch directory is spent once it is given. -/
theorem spent_scratch (number : Nat) :
    machine.Spent (number + 1) ("cfg-gen-" ++ machine.names number) := by
  refine ⟨?_, ?_⟩
  · rw [Path.holdsNull_append, (apart.isName number).noNull]
    decide
  · rintro ⟨other, begun, same | same | same⟩
    · exact (apart.names_ne other number).2 same.symm
    · exact staging_ne_scratch _ _ same.symm
    · exact Nat.ne_of_lt begun (apart.injective ((String.append_right_inj _).1 same))

end NamesApart

/-- What begins otherwise than the two texts, and is no name of the machine, is spent. -/
theorem spent_of_head
    (noNull : FileWork.holdsNull name = false)
    (begins : name.toList.head? ≠ some '.' ∧ name.toList.head? ≠ some 'c')
    (notName : ∀ number, name ≠ machine.names number) :
    machine.Spent first name := by
  refine ⟨noNull, ?_⟩
  rintro ⟨number, -, same | rfl | rfl⟩
  · exact notName number same
  · rw [String.toList_append] at begins
    exact begins.1 rfl
  · rw [String.toList_append] at begins
    exact begins.2 rfl

/-- The text of a number begins with a digit or a sign. -/
theorem head_toString
    (value : Int)
    (rest : List Char) :
    ((toString value).toList ++ rest).head? ≠ some '.' ∧
      ((toString value).toList ++ rest).head? ≠ some 'c' := by
  have nonempty : (toString value).toList ≠ [] := by
    intro none
    exact (Path.isName_toString value).notEmpty (String.toList_injective none)
  obtain ⟨start, others, shape⟩ := List.exists_cons_of_ne_nil nonempty
  have member : start ∈ (toString value).toList := shape ▸ List.mem_cons_self
  rw [shape, List.cons_append, List.head?_cons]
  refine ⟨?_, ?_⟩ <;>
  · intro same
    cases same
    exact absurd (Path.isDigit_of_mem_toString member) (by decide)

/-- The text of a number can stand in a tree, if the names of the machine avoid it. -/
theorem Avoids.spent {value : Int} (avoids : machine.Avoids value) :
    machine.Spent first (toString value) := by
  refine spent_of_head (Path.isName_toString value).noNull ?_
    fun number same => avoids number same.symm
  simpa using head_toString value []

namespace NamesApart

variable (apart : machine.NamesApart)

include apart

/-- The text of a class can stand in a tree. -/
theorem spent_class (corpusClass : CorpusClass) : machine.Spent first corpusClass.text := by
  refine spent_of_head ?_ ?_ fun number same => apart.notClass number corpusClass same.symm
  · cases corpusClass <;> decide
  · cases corpusClass <;> decide

/-- The text of a number with something behind a point can stand in a tree. -/
theorem spent_numbered
    (value : Int)
    {ending : String}
    (noNull : FileWork.holdsNull ending = false) :
    machine.Spent first (toString value ++ "." ++ ending) := by
  refine spent_of_head ?_ ?_ ?_
  · rw [Path.holdsNull_append, Path.holdsNull_append, (Path.isName_toString value).noNull, noNull]
    decide
  · rw [String.append_assoc, String.toList_append]
    exact head_toString value _
  · intro number same
    have noPoint := apart.noPoint number
    rw [← same] at noPoint
    simp at noPoint

end NamesApart

end Machine

namespace FileTree

variable {tree : FileTree} {location target : Location} {parts : List String} {name : String}

/-- A walk leads to a place whose names are those of its start and of its parts. -/
theorem mem_of_walk
    (leads : tree.walk location parts = .ok target)
    (member : name ∈ target) :
    name ∈ location ∨ name ∈ parts := by
  induction parts generalizing location with
  | nil =>
      cases leads
      exact .inl member
  | cons part parts inductionHypothesis =>
      simp only [walk] at leads
      cases entered : tree.enter location part with
      | error cause =>
          rw [entered] at leads
          cases leads
      | ok next =>
          rw [entered] at leads
          rcases inductionHypothesis leads with here | later
          · unfold enter at entered
            split at entered
            · cases entered
            · cases entered
            · split at entered
              · cases entered
                exact .inl (List.mem_of_mem_tail here)
              · split at entered
                · cases entered
                · cases entered
                  rcases List.mem_cons.1 here with rfl | before
                  · exact .inr List.mem_cons_self
                  · exact .inl before
          · exact .inr (List.mem_cons_of_mem _ later)

/-- Where a path leads, there are names of the path and of the working directory. -/
theorem mem_of_resolve
    {directory : Location}
    {path : Path}
    (leads : tree.resolve directory path = .ok target)
    (member : name ∈ target) :
    name ∈ directory ∨ name ∈ path.parts := by
  unfold resolve at leads
  split at leads
  · cases leads
  · rcases mem_of_walk leads member with start | part
    · refine .inl ?_
      split at start
      · exact start
      · cases start
    · exact .inr part

variable {base directory : Location}

/-- What is freed below a name does not matter where the name does not occur. -/
theorem find?_prune_of_not_mem (apart : name ∉ location) :
    (tree.prune (name :: base)).find? location = tree.find? location := by
  rw [find?_prune_below (List.cons_ne_nil _ _), if_neg]
  exact fun inside => apart (inside.subset List.mem_cons_self)

/-- What is freed below a name does not matter to a walk on which the name does not occur. -/
theorem walk_prune
    {parts : List String}
    (leads : tree.walk location parts = .ok target)
    (apart : name ∉ location)
    (avoids : name ∉ parts) :
    (tree.prune (name :: base)).walk location parts = .ok target := by
  induction parts generalizing location with
  | nil => exact leads
  | cons part parts inductionHypothesis =>
      rw [List.mem_cons, not_or] at avoids
      have same : (tree.prune (name :: base)).enter location part = tree.enter location part := by
        simp only [enter, find?_prune_of_not_mem apart]
      simp only [walk] at leads ⊢
      rw [same]
      cases entered : tree.enter location part with
      | error cause =>
          rw [entered] at leads
          cases leads
      | ok next =>
          rw [entered] at leads
          refine inductionHypothesis leads ?_ avoids.2
          have way : tree.walk location [part] = .ok next := by
            rw [walk, entered]
            rfl
          intro member
          rcases mem_of_walk way member with here | isPart
          · exact apart here
          · exact avoids.1 (List.mem_singleton.1 isPart)

/-- What is freed below a name does not matter to a path in which the name does not occur. -/
theorem resolve_prune
    {path : Path}
    (leads : tree.resolve directory path = .ok target)
    (apart : name ∉ directory)
    (avoids : name ∉ path.parts) :
    (tree.prune (name :: base)).resolve directory path = .ok target := by
  unfold resolve at leads ⊢
  split at leads
  · cases leads
  · rename_i short
    rw [if_neg short]
    refine walk_prune leads ?_ avoids
    split
    · exact apart
    · exact List.not_mem_nil

end FileTree

end GrammarCorpus
