import GrammarCorpus.Proofs.Files.Change
import GrammarCorpus.Proofs.Files.Naming
import GrammarCorpus.Proofs.Text.Splitting

namespace GrammarCorpus

/-!
# Opening the way along a path

A path may turn back from a place that is missing. Making directories for it makes one
wherever the path needs one, and each of them is where some beginning of the path leads.
When that succeeds for a path that goes on with a new name, the part in front of the name
leads to a directory that stands.
-/

namespace FileTree

variable {directory location : Location} {path : Path} {before opened after : FileTree}
variable {tree : FileTree} {parts : List String}

/-- A walk to a free place ends below a directory. -/
theorem Grounded.above_of_walk
    (grounded : tree.Grounded)
    {start : Location}
    (begins : tree.contains start = true)
    (leads : tree.walk start parts = .ok location)
    (free : tree.find? location = none) :
    ∃ name parent, location = name :: parent ∧ tree.isDirectory parent = true := by
  induction parts generalizing start with
  | nil =>
      cases leads
      rw [contains_eq_false_iff.2 free] at begins
      cases begins
  | cons part parts inductionHypothesis =>
      simp only [walk] at leads
      cases entered : tree.enter start part with
      | error cause =>
          rw [entered] at leads
          cases leads
      | ok next =>
          rw [entered] at leads
          cases there : tree.contains next with
          | true => exact inductionHypothesis there leads
          | false =>
              have isDirectory := isDirectory_of_enter entered
              -- Nothing stands here, so this is the end, and it was not reached by turning back.
              cases parts with
              | nil =>
                  cases leads
                  by_cases turns : part = ".."
                  · subst turns
                    have back : location = start.tail := by
                      simpa [enter, isDirectory_iff.1 isDirectory] using entered.symm
                    cases start with
                    | nil =>
                        rw [back] at there
                        cases there
                    | cons name parent =>
                        have above := grounded name parent begins
                        rw [back, List.tail_cons, contains_of_isDirectory above] at there
                        cases there
                  · rw [enter_plain turns isDirectory] at entered
                    split at entered
                    · cases entered
                    · cases entered
                      exact ⟨part, start, rfl, isDirectory⟩
              | cons second others =>
                  simp only [walk, enter, contains_eq_false_iff.1 there] at leads
                  cases leads

/-- Directories that are made on a way stand in directories. -/
theorem Furnished.grounded
    (furnished : Furnished directory path before after)
    (home : before.isDirectory directory = true)
    (grounded : before.Grounded) :
    after.Grounded := by
  induction furnished with
  | done => exact grounded
  | made earlier onTheWay leads free inductionHypothesis =>
      rename_i between parts place
      have begins : between.contains
          (if path.anchor = .relative then directory else []) = true := by
        split
        · exact contains_of_isDirectory (earlier.within.isDirectory home)
        · rfl
      have way := walk_of_resolve leads
      obtain ⟨name, parent, rfl, above⟩ := inductionHypothesis.above_of_walk begins way free
      refine inductionHypothesis.insert _ above ?_
      rw [FileTree.isDirectory, free]
      rfl

/--
A beginning of a way on which a name occurs leads behind the place that the name has, or
to it.
-/
theorem eq_of_resolve_beyond
    {anchor : Anchor}
    {known taken : List String}
    {name : String}
    {base : Location}
    (reached : tree.walk (if anchor = .relative then directory else []) known = .ok base)
    (plain : ".." ∉ name :: taken)
    (leads : tree.resolve directory ⟨anchor, known ++ name :: taken⟩ = .ok location) :
    location = taken.reverse ++ name :: base := by
  have way := walk_of_resolve leads
  simp only at way
  rw [walk_append, reached] at way
  obtain ⟨rfl, -, -⟩ := walk_eq_ok_of_plain plain way
  simp

/--
The way along a path has been opened: all that is new are directories to which a beginning
of the path leads.
-/
structure Opens (directory : Location) (path : Path) (before opened : FileTree) : Prop where
  kept : before.Within opened
  grounded : opened.Grounded
  onTheWay : ∀ location entry,
    opened.find? location = some entry →
      before.find? location = none →
      entry = .directory ∧
        ∃ parts, parts <+: path.parts ∧
          opened.resolve directory ⟨path.anchor, parts⟩ = .ok location

/--
Where directories were made for a place behind a new name, the path in front of the name
leads to a directory, and the way there is open when the new name is taken away again.
-/
theorem exists_opens
    {name : String}
    {inner : List String}
    (furnished : Furnished directory ⟨path.anchor, path.parts ++ name :: inner⟩ before tree)
    (reaches : tree.LeadsToDirectory directory ⟨path.anchor, path.parts ++ name :: inner⟩)
    (home : before.isDirectory directory = true)
    (grounded : before.Grounded)
    (plain : ".." ∉ name :: inner)
    (unknown : ∀ location, name ∈ location → before.find? location = none)
    (notHome : name ∉ directory)
    (notInside : name ∉ path.parts) :
    ∃ base,
      tree.walk (if path.anchor = .relative then directory else []) path.parts = .ok base ∧
        tree.resolve directory ⟨path.anchor, path.parts ++ [name]⟩ = .ok (name :: base) ∧
        tree.find? (name :: base) = some .directory ∧
        Opens directory path before (tree.prune (name :: base)) := by
  have groundedThen := furnished.grounded home grounded
  obtain ⟨target, leads, isDirectory⟩ := reaches
  have way := walk_of_resolve leads
  simp only at way
  rw [List.append_cons] at way
  obtain ⟨place, whole, there⟩ :=
    contains_of_walk_append way (contains_of_isDirectory isDirectory)
  rw [walk_append] at whole
  cases reached : tree.walk (if path.anchor = .relative then directory else []) path.parts with
  | error cause =>
      rw [reached] at whole
      cases whole
  | ok base =>
      rw [reached] at whole
      obtain ⟨rfl, -, -⟩ := walk_eq_ok_of_plain
        (fun member => plain (List.mem_singleton.1 member ▸ List.mem_cons_self)) whole
      simp only [List.reverse_singleton, List.singleton_append] at there
      obtain ⟨entry, found⟩ := contains_iff.1 there
      have beyond : ∀ taken place, taken <+: inner →
          tree.resolve directory ⟨path.anchor, path.parts ++ name :: taken⟩ = .ok place →
            place = taken.reverse ++ name :: base := by
        intro taken place inside leadsThere
        refine eq_of_resolve_beyond reached ?_ leadsThere
        exact fun member => plain ((List.cons_prefix_cons.2 ⟨rfl, inside⟩).subset member)
      obtain ⟨rfl, parts, beginning, leadsHere⟩ :=
        furnished.exists_of_new found (unknown _ List.mem_cons_self)
      have named : name ∈ parts :=
        (mem_of_resolve leadsHere List.mem_cons_self).resolve_left notHome
      obtain ⟨taken, inside, rfl⟩ := (prefix_append_cons_cases beginning).resolve_left
        fun short => notInside (short.subset named)
      obtain rfl : taken = [] := by simpa using beyond taken _ inside leadsHere
      refine ⟨base, rfl, leadsHere, found, ?_⟩
      refine { kept := ?_, grounded := groundedThen.prune (List.cons_ne_nil _ _), onTheWay := ?_ }
      · intro location other holds
        rw [find?_prune_of_not_mem]
        · exact furnished.within location other holds
        · intro member
          cases holds.symm.trans (unknown location member)
      · intro location other holds free
        rw [find?_prune_below (List.cons_ne_nil _ _)] at holds
        split at holds
        · cases holds
        · rename_i outside
          obtain ⟨isDirectory, parts, beginning, leadsThere⟩ :=
            furnished.exists_of_new holds free
          rcases prefix_append_cons_cases beginning with short | ⟨taken, inside, rfl⟩
          · refine ⟨isDirectory, parts, short, resolve_prune leadsThere notHome ?_⟩
            exact fun member => notInside (short.subset member)
          · obtain rfl := beyond taken location inside leadsThere
            exact absurd (List.suffix_append _ _) outside

end FileTree

end GrammarCorpus
