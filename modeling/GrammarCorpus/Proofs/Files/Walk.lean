import GrammarCorpus.Proofs.Files.Tree

namespace GrammarCorpus

/-!
# Walks through file trees

A walk that comes to an end passes directories only, so it comes to the same end in
every greater tree. Along parts that do not turn back, the end of a walk is known
beforehand: the parts, the innermost first, in front of the start.
-/

namespace FileTree

variable {tree before after : FileTree} {location target : Location} {parts : List String}

/-- A part that a name may have. -/
def Short (part : String) : Prop :=
  part.utf8ByteSize ≤ nameLimit

/-- A part is entered if a directory is left. -/
theorem isDirectory_of_enter
    {part : String}
    {next : Location}
    (entered : tree.enter location part = .ok next) :
    tree.isDirectory location = true := by
  unfold enter at entered
  rw [isDirectory_iff]
  split at entered
  · simp at entered
  · simp at entered
  · assumption

/-- A part leads to the same place from the same directory. -/
theorem enter_congr
    (part : String)
    (first : before.isDirectory location = true)
    (second : after.isDirectory location = true) :
    after.enter location part = before.enter location part := by
  simp [enter, isDirectory_iff.1 first, isDirectory_iff.1 second]

/-- A part that does not turn back leads below the directory. -/
theorem enter_plain
    {part : String}
    (plain : part ≠ "..")
    (directory : tree.isDirectory location = true) :
    tree.enter location part =
      if nameLimit < part.utf8ByteSize then .error .nameTooLong
      else .ok (part :: location) := by
  simp [enter, isDirectory_iff.1 directory, plain]

/-- A walk along two lists of parts goes on where the first ends. -/
theorem walk_append (first second : List String) :
    tree.walk location (first ++ second) =
      (tree.walk location first).bind fun middle => tree.walk middle second := by
  induction first generalizing location with
  | nil => rfl
  | cons part parts inductionHypothesis =>
      simp only [List.cons_append, walk]
      cases tree.enter location part with
      | error cause => rfl
      | ok next => exact inductionHypothesis

/-- A walk that ends somewhere ends there in every greater tree. -/
theorem Within.walk
    (within : before.Within after)
    (ends : before.walk location parts = .ok target) :
    after.walk location parts = .ok target := by
  induction parts generalizing location with
  | nil => exact ends
  | cons part parts inductionHypothesis =>
      simp only [FileTree.walk] at ends ⊢
      cases entered : before.enter location part with
      | error cause =>
          simp [entered] at ends
      | ok next =>
          have directory := isDirectory_of_enter entered
          rw [enter_congr part directory (within.isDirectory directory), entered]
          rw [entered] at ends
          exact inductionHypothesis ends

/-- On the way to what a tree holds, everything is there. -/
theorem contains_of_walk_append
    {first second : List String}
    (ends : tree.walk location (first ++ second) = .ok target)
    (holds : tree.contains target = true) :
    ∃ middle, tree.walk location first = .ok middle ∧ tree.contains middle = true := by
  rw [walk_append] at ends
  cases begins : tree.walk location first with
  | error cause =>
      rw [begins] at ends
      cases ends
  | ok middle =>
      rw [begins] at ends
      refine ⟨middle, rfl, ?_⟩
      cases second with
      | nil =>
          cases ends
          exact holds
      | cons part rest =>
          simp only [Except.bind, walk] at ends
          cases entered : tree.enter middle part with
          | error cause =>
              rw [entered] at ends
              cases ends
          | ok next => exact contains_of_isDirectory (isDirectory_of_enter entered)

/-- A walk that does not come to its end fails to go on to one of its parts. -/
theorem exists_of_walk_error
    {parts : List String}
    {cause : SystemError}
    (fails : tree.walk location parts = .error cause) :
    ∃ known part more place,
      parts = known ++ part :: more ∧
        tree.walk location known = .ok place ∧
        tree.enter place part = .error cause := by
  induction parts generalizing location with
  | nil => cases fails
  | cons part parts inductionHypothesis =>
      rw [walk] at fails
      cases entered : tree.enter location part with
      | error other =>
          rw [entered] at fails
          cases fails
          exact ⟨[], part, parts, location, rfl, rfl, entered⟩
      | ok next =>
          rw [entered] at fails
          obtain ⟨known, last, more, place, rfl, leads, stops⟩ := inductionHypothesis fails
          refine ⟨part :: known, last, more, place, rfl, ?_, stops⟩
          rw [walk, entered]
          exact leads

/-- It fails at a free place, at a file, or where the part is too long for a name. -/
theorem enter_error_cases
    {part : String}
    {cause : SystemError}
    (fails : tree.enter location part = .error cause) :
    cause = .notFound ∨
      (cause = .notDirectory ∧ ∃ content, tree.find? location = some (.file content)) ∨
      cause = .nameTooLong ∧ tree.isDirectory location = true ∧ ¬ Short part := by
  unfold enter at fails
  split at fails
  · cases fails
    exact .inl rfl
  · rename_i content file
    cases fails
    exact .inr (.inl ⟨rfl, content, file⟩)
  · rename_i isDirectory
    split at fails
    · cases fails
    · split at fails
      · rename_i long
        cases fails
        exact .inr (.inr ⟨rfl, isDirectory_iff.2 isDirectory, Nat.not_le.2 long⟩)
      · cases fails

/-- Where a walk ends that does not turn back, and what its parts are like. -/
theorem walk_eq_ok_of_plain
    (plain : ".." ∉ parts)
    (ends : tree.walk location parts = .ok target) :
    target = parts.reverse ++ location ∧
      (∀ part ∈ parts, Short part) ∧
      (parts ≠ [] → tree.isDirectory target.tail = true) := by
  induction parts generalizing location with
  | nil =>
      simp only [walk, Except.ok.injEq] at ends
      simp [ends]
  | cons part rest inductionHypothesis =>
      obtain ⟨plainPart, plainRest⟩ : part ≠ ".." ∧ ".." ∉ rest := by
        simpa [eq_comm] using plain
      simp only [walk] at ends
      cases entered : tree.enter location part with
      | error cause =>
          simp [entered] at ends
      | ok next =>
          have directory := isDirectory_of_enter entered
          rw [entered] at ends
          rw [enter_plain plainPart directory] at entered
          split at entered
          · simp at entered
          · rename_i short
            obtain rfl : part :: location = next := by simpa using entered
            obtain ⟨same, shortRest, above⟩ := inductionHypothesis plainRest ends
            refine ⟨by simp [same], ?_, ?_⟩
            · intro other member
              rcases List.mem_cons.1 member with isFirst | inRest
              · exact isFirst ▸ Nat.not_lt.1 short
              · exact shortRest other inRest
            · intro _
              cases rest with
              | nil => simpa [same] using directory
              | cons second others => exact above (by simp)

/-- The way to what a grounded tree holds is free, unless a name on it is too long. -/
theorem Grounded.walk_of_contains
    (grounded : tree.Grounded)
    (plain : ".." ∉ parts)
    (holds : tree.contains (parts.reverse ++ location) = true) :
    tree.walk location parts = .ok (parts.reverse ++ location) ∨
      tree.walk location parts = .error .nameTooLong ∧ ∃ part ∈ parts, ¬ Short part := by
  induction parts generalizing location with
  | nil => exact .inl rfl
  | cons part rest inductionHypothesis =>
      obtain ⟨plainPart, plainRest⟩ : part ≠ ".." ∧ ".." ∉ rest := by
        simpa [eq_comm] using plain
      rw [List.reverse_cons, List.append_assoc, List.singleton_append] at holds ⊢
      have here : tree.contains (part :: location) = true :=
        grounded.contains_of_suffix holds (List.suffix_append _ _)
      rw [walk, enter_plain plainPart (grounded part location here)]
      by_cases short : Short part
      · rw [if_neg (Nat.not_lt.2 short)]
        rcases inductionHypothesis plainRest holds with ends | ⟨fails, long, member, tooLong⟩
        · exact .inl ends
        · exact .inr ⟨fails, long, List.mem_cons_of_mem _ member, tooLong⟩
      · rw [if_pos (Nat.not_le.1 short)]
        exact .inr ⟨rfl, part, List.mem_cons_self, short⟩

/-- Along short parts that do not turn back, a walk ends behind a directory. -/
theorem Grounded.walk_of_isDirectory
    (grounded : tree.Grounded)
    {last : String}
    (plain : ".." ∉ parts ++ [last])
    (short : ∀ part ∈ parts ++ [last], Short part)
    (directory : tree.isDirectory (parts.reverse ++ location) = true) :
    tree.walk location (parts ++ [last]) = .ok (last :: (parts.reverse ++ location)) := by
  obtain ⟨plainParts, plainLast⟩ : ".." ∉ parts ∧ last ≠ ".." := by
    simpa [eq_comm] using plain
  rcases grounded.walk_of_contains plainParts (contains_of_isDirectory directory) with
    ends | ⟨-, part, member, long⟩
  · rw [walk_append, ends]
    change tree.walk (parts.reverse ++ location) [last] = _
    rw [walk, enter_plain plainLast directory,
      if_neg (Nat.not_lt.2 (short last (by simp)))]
    rfl
  · exact absurd (short part (List.mem_append_left _ member)) long

/-- The location that a path leads to from a working directory. -/
def resolve
    (tree : FileTree)
    (directory : Location)
    (path : Path) :
    Except SystemError Location :=
  if Work.pathLimit < path.text.utf8ByteSize then
    .error .nameTooLong
  else
    tree.walk (if path.anchor = .relative then directory else []) path.parts

/-- A path that is not too long as a whole is followed part by part. -/
theorem resolve_eq_walk
    {directory : Location}
    {path : Path}
    (short : path.text.utf8ByteSize ≤ Work.pathLimit) :
    tree.resolve directory path =
      tree.walk (if path.anchor = .relative then directory else []) path.parts :=
  if_neg (Nat.not_lt.2 short)

/-- What leads somewhere is not too long as a whole. -/
theorem text_le_of_resolve
    {directory : Location}
    {path : Path}
    (leads : tree.resolve directory path = .ok location) :
    path.text.utf8ByteSize ≤ Work.pathLimit := by
  unfold resolve at leads
  split at leads
  · cases leads
  · rename_i short
    exact Nat.not_lt.1 short

/-- A path that leads somewhere leads there in every greater tree. -/
theorem Within.resolve
    {directory : Location}
    {path : Path}
    (within : before.Within after)
    (leads : before.resolve directory path = .ok target) :
    after.resolve directory path = .ok target := by
  unfold FileTree.resolve at leads ⊢
  split at leads
  · simp at leads
  · rename_i short
    rw [if_neg short]
    exact within.walk leads

end FileTree

end GrammarCorpus
