import GrammarCorpus.Proofs.Store.Growth

namespace GrammarCorpus

/-!
# Missing directories

The directories that are missing on the way to a path are listed without a look at
what the parts mean. Behind a site, where all parts lead downwards, the list is right:
every listed path leads to a place that is free, and no free place is left out.

The first such list finds the site. The parts that are not listed lead to something,
and the others go on behind it; they lead downwards unless the path turns back from a
place that is missing.
-/

open FileTree

namespace Site

variable {directory : Location} {old tree : FileTree} {site : Site directory old}
variable {parts taken : List String} {path : Path}

/-- The way to what is there is free, unless a name on it is too long. -/
theorem walk_of_contains
    (within : old.Within tree)
    (grounded : tree.Grounded)
    (downward : site.Downward parts)
    (holds : tree.contains (site.place parts) = true) :
    let start := if site.anchor = .relative then directory else []
    tree.walk start (site.path parts).parts = .ok (site.place parts) ∨
      tree.walk start (site.path parts).parts = .error .nameTooLong := by
  intro start
  change tree.walk start (site.known ++ parts) = _ ∨
    tree.walk start (site.known ++ parts) = _
  rw [walk_append, within.walk site.leads]
  cases parts with
  | nil => exact .inl rfl
  | cons part rest =>
      obtain ⟨outer, last, shape⟩ : ∃ outer last, part :: rest = outer ++ [last] :=
        ⟨_, _, (List.dropLast_concat_getLast (by simp)).symm⟩
      have isDirectory : tree.isDirectory site.base = true := by
        rw [shape, place_concat] at holds
        exact grounded.isDirectory_of_suffix holds (List.suffix_append _ _)
      have plain := downward (isDirectory_of_within within isDirectory)
      rcases grounded.walk_of_contains plain holds with ends | ⟨long, -⟩
      · exact .inl ends
      · exact .inr long

/-- On the way to the site nothing is missing. -/
theorem lookAt_ne_none_of_known
    (within : old.Within tree)
    (onTheWay : path.parts <+: site.known)
    (anchor : path.anchor = site.anchor)
    (noNull : FileWork.holdsNull path.text = false) :
    tree.lookAt directory path ≠ .ok none := by
  intro seen
  obtain ⟨more, whole⟩ := onTheWay
  have way := site.leads
  rw [← whole] at way
  obtain ⟨middle, first, there⟩ := contains_of_walk_append way site.holds
  rw [← anchor] at first
  rcases walk_of_lookAt_eq_none noNull seen with ⟨location, leads, free⟩ | ⟨cause, fails, -⟩
  · rw [within.walk first] at leads
    cases leads
    obtain ⟨entry, found⟩ := contains_iff.1 (within.contains there)
    cases found.symm.trans free
  · rw [within.walk first] at fails
    cases fails

/-- Behind the site only free places are missing. -/
theorem free_of_lookAt
    (within : old.Within tree)
    (grounded : tree.Grounded)
    (downward : site.Downward parts)
    (noNull : FileWork.holdsNull (site.path parts).text = false)
    (seen : tree.lookAt directory (site.path parts) = .ok none) :
    tree.find? (site.place parts) = none := by
  cases found : tree.find? (site.place parts) with
  | none => rfl
  | some entry =>
      have holds := contains_iff.2 ⟨entry, found⟩
      rcases walk_of_lookAt_eq_none noNull seen with
        ⟨location, leads, free⟩ | ⟨cause, fails, absent⟩
      · rcases walk_of_contains within grounded downward holds with ends | long
        · cases ends.symm.trans leads
          cases found.symm.trans free
        · cases long.symm.trans leads
      · rcases walk_of_contains within grounded downward holds with ends | long
        · cases ends.symm.trans fails
        · cases long.symm.trans fails
          exact absurd absent (by decide)

/-- A listed path leads downwards behind the site, to a place that was free. -/
theorem fresh_of_mem_missing
    {machine : Machine}
    {workspace : Workspace}
    {site : Site machine.directory old}
    {listed : List Path}
    (within : old.Within workspace.tree)
    (grounded : workspace.tree.Grounded)
    (nameable : old.Nameable)
    (nullFree : ∀ part ∈ site.known, FileWork.holdsNull part = false)
    (downward : site.Downward parts)
    (found : ((FileWork.missing (site.path parts)).run.perform machine workspace).1 =
      .ok listed)
    (member : path ∈ listed) :
    ∃ taken,
      taken ≠ [] ∧
        taken <+: parts ∧
        path = site.path taken ∧
        old.find? (site.place taken) = none := by
  obtain ⟨known, rest, shape, members, gone, -⟩ :=
    FileWork.exists_of_missingFrom_eq_ok found
  rw [List.reverse_reverse] at shape
  obtain ⟨some, notEmpty, inside, same⟩ := (members path).1 member
  have onTheWay : path.parts <+: (site.path parts).parts := by
    rw [same, shape]
    exact (List.prefix_append_right_inj _).2 inside
  have anchor : path.anchor = site.anchor := by
    rw [same]
    rfl
  rcases prefix_cases onTheWay with short | ⟨taken, some, takenInside, whole⟩
  · refine absurd (gone path member) (lookAt_ne_none_of_known within short anchor ?_)
    rw [Path.holdsNull_text, List.any_eq_false]
    intro part isPart
    rw [nullFree part (short.subset isPart)]
    exact Bool.false_ne_true
  · cases eq_path anchor whole
    refine ⟨taken, some, takenInside, rfl, ?_⟩
    cases handed : FileWork.holdsNull (site.path taken).text with
    | false =>
        exact within.free (free_of_lookAt within grounded (downward.of_beginning takenInside)
          handed (gone _ member))
    | true =>
        rw [Path.holdsNull_text, List.any_eq_true] at handed
        obtain ⟨part, isPart, null⟩ := handed
        refine nameable.free null ?_
        rcases List.mem_append.1 isPart with isKnown | isTaken
        · rw [nullFree part isKnown] at null
          cases null
        · exact List.mem_append_left _ (List.mem_reverse.2 isTaken)

/-- No free place behind the site is left out of the list. -/
theorem mem_missing_of_free
    {machine : Machine}
    {workspace : Workspace}
    {site : Site machine.directory old}
    {listed : List Path}
    (within : old.Within workspace.tree)
    (downward : site.Downward parts)
    (found : ((FileWork.missing (site.path parts)).run.perform machine workspace).1 =
      .ok listed)
    (some : taken ≠ [])
    (inside : taken <+: parts)
    (free : workspace.tree.find? (site.place taken) = none) :
    site.path taken ∈ listed := by
  obtain ⟨known, rest, shape, members, -, there⟩ :=
    FileWork.exists_of_missingFrom_eq_ok found
  rw [List.reverse_reverse] at shape
  have onTheWay : (site.path taken).parts <+: known ++ rest := by
    rw [← shape]
    exact (List.prefix_append_right_inj _).2 inside
  -- What is not listed leads to something, so a free place lies behind it.
  have apart : ¬ (site.path taken).parts <+: known := by
    rintro ⟨more, whole⟩
    rcases there with nothing | ⟨entry, seen⟩
    · rw [nothing] at whole
      have short := congrArg List.length whole
      cases taken with
      | nil => exact absurd rfl some
      | cons part others => simp [Site.path] at short
    · obtain ⟨location, leads, found⟩ := resolve_of_lookAt_eq_some seen
      have way := walk_of_resolve leads
      rw [← whole] at way
      obtain ⟨middle, first, holds⟩ :=
        contains_of_walk_append way (contains_iff.2 ⟨entry, found⟩)
      obtain ⟨rfl, -, -⟩ :=
        eq_place_of_walk within some (downward.of_beginning inside) first
      obtain ⟨other, finds⟩ := contains_iff.1 holds
      cases finds.symm.trans free
  rcases List.prefix_or_prefix_of_prefix onTheWay (List.prefix_append known rest) with
    short | ⟨more, whole⟩
  · exact absurd short apart
  · refine (members _).2 ⟨more, ?_, ?_, ?_⟩
    · rintro rfl
      rw [← whole, List.append_nil] at apart
      exact apart (List.prefix_refl _)
    · rw [← whole] at onTheWay
      exact (List.prefix_append_right_inj _).1 onTheWay
    · exact (eq_path rfl whole).symm

end Site

namespace FileTree

/-- The way along a path ends at a free place or before it, and no file blocks it. -/
def IsMissing (tree : FileTree) (directory : Location) (path : Path) : Prop :=
  match tree.walk (if path.anchor = .relative then directory else []) path.parts with
  | .ok location => tree.find? location = none
  | .error cause => cause ≠ .notDirectory

/-- No part of a path turns back from a place that is missing. -/
def Straight (tree : FileTree) (directory : Location) (path : Path) : Prop :=
  ∀ before after,
    path.parts = before ++ ".." :: after → ¬ tree.IsMissing directory ⟨path.anchor, before⟩

/-- Behind a directory, the first part of a path that is not seen leads to a free place. -/
theorem free_of_lookAt_concat
    {tree : FileTree}
    {directory base : Location}
    {anchor : Anchor}
    {known : List String}
    {part : String}
    (grounded : tree.Grounded)
    (nameable : tree.Nameable)
    (nullFree : ∀ part ∈ known, FileWork.holdsNull part = false)
    (leads : tree.walk (if anchor = .relative then directory else []) known = .ok base)
    (isDirectory : tree.isDirectory base = true)
    (seen : tree.lookAt directory ⟨anchor, known ++ [part]⟩ = .ok none) :
    part ≠ ".." ∧ tree.find? (part :: base) = none := by
  have way : tree.walk (if anchor = .relative then directory else []) (known ++ [part]) =
      tree.enter base part := by
    rw [walk_append, leads]
    simp only [Except.bind, walk]
    cases tree.enter base part <;> rfl
  cases handed : FileWork.holdsNull part with
  | true =>
      refine ⟨?_, nameable.free handed List.mem_cons_self⟩
      rintro rfl
      exact absurd handed (by decide)
  | false =>
      have noNull : FileWork.holdsNull (Path.text ⟨anchor, known ++ [part]⟩) = false := by
        rw [Path.holdsNull_text, List.any_append, Bool.or_eq_false_iff, List.any_eq_false]
        refine ⟨fun other member => ?_, by simp [handed]⟩
        rw [nullFree other member]
        exact Bool.false_ne_true
      have nowhere := walk_of_lookAt_eq_none noNull seen
      simp only [way] at nowhere
      by_cases turns : part = ".."
      · have entered : tree.enter base part = .ok base.tail := by
          simp [enter, isDirectory_iff.1 isDirectory, turns]
        have above : tree.contains base.tail = true := by
          cases base with
          | nil => rfl
          | cons name parent =>
              exact contains_of_isDirectory
                (grounded name parent (contains_of_isDirectory isDirectory))
        rw [entered] at nowhere
        rcases nowhere with ⟨location, same, free⟩ | ⟨cause, fails, -⟩
        · cases same
          obtain ⟨entry, found⟩ := contains_iff.1 above
          cases found.symm.trans free
        · cases fails
      · refine ⟨turns, ?_⟩
        rw [enter_plain turns isDirectory] at nowhere
        split at nowhere
        · rcases nowhere with ⟨location, same, -⟩ | ⟨cause, fails, absent⟩
          · cases same
          · cases fails
            exact absurd absent (by decide)
        · rcases nowhere with ⟨location, same, free⟩ | ⟨cause, fails, -⟩
          · cases same
            exact free
          · cases fails

/-- A path is missing if it goes on plainly behind a directory that lacks its next part. -/
theorem isMissing_of_free
    {tree : FileTree}
    {directory base : Location}
    {anchor : Anchor}
    {known : List String}
    {part : String}
    (others : List String)
    (leads : tree.walk (if anchor = .relative then directory else []) known = .ok base)
    (isDirectory : tree.isDirectory base = true)
    (plain : part ≠ "..")
    (free : tree.find? (part :: base) = none) :
    tree.IsMissing directory ⟨anchor, known ++ part :: others⟩ := by
  have way :
      tree.walk (if anchor = .relative then directory else []) (known ++ part :: others) =
        tree.walk base (part :: others) := by
    rw [walk_append, leads]
    rfl
  have entered : tree.enter base part = _ := enter_plain plain isDirectory
  unfold IsMissing
  simp only [way, walk, entered]
  by_cases long : nameLimit < part.utf8ByteSize
  · simp only [long, if_true]
    decide
  · simp only [long, if_false]
    cases others with
    | nil => exact free
    | cons second more =>
        simp only [walk, enter, free]
        decide

/-- Nothing stands below what is no directory. -/
theorem Grounded.free_of_isDirectory
    {tree : FileTree}
    {base : Location}
    {part : String}
    (grounded : tree.Grounded)
    (free : tree.isDirectory base = true → tree.find? (part :: base) = none) :
    tree.find? (part :: base) = none := by
  cases directory : tree.isDirectory base with
  | true => exact free directory
  | false =>
      rw [← contains_eq_false_iff]
      cases below : tree.contains (part :: base) with
      | false => rfl
      | true => cases (grounded part base below).symm.trans directory

/-- The start of a path, or what is seen on its way, leads to something. -/
theorem exists_walk_of_seen
    {tree : FileTree}
    {directory : Location}
    {anchor : Anchor}
    {known : List String}
    (home : tree.isDirectory directory = true)
    (there : known = [] ∨ ∃ entry, tree.lookAt directory ⟨anchor, known⟩ = .ok (some entry)) :
    ∃ base,
      tree.walk (if anchor = .relative then directory else []) known = .ok base ∧
        tree.contains base = true ∧
        ∀ part ∈ known, FileWork.holdsNull part = false := by
  rcases there with rfl | ⟨entry, seen⟩
  · refine ⟨_, rfl, ?_, nofun⟩
    split
    · exact contains_of_isDirectory home
    · rfl
  · obtain ⟨base, leads, holds⟩ := resolve_of_lookAt_eq_some seen
    refine ⟨base, walk_of_resolve leads, contains_iff.2 ⟨entry, holds⟩, ?_⟩
    have handed := holdsNull_of_lookAt_eq_some seen
    rw [Path.holdsNull_text, List.any_eq_false] at handed
    intro part member
    rw [← Bool.not_eq_true]
    exact handed part member

end FileTree

/-- The missing directories of an output path have a site, and lie straight behind it. -/
theorem exists_site
    {machine : Machine}
    {workspace : Workspace}
    {output : Path}
    {listed : List Path}
    (grounded : workspace.tree.Grounded)
    (nameable : workspace.tree.Nameable)
    (home : workspace.tree.isDirectory machine.directory = true)
    (straight : workspace.tree.Straight machine.directory output)
    (found : ((FileWork.missing output).run.perform machine workspace).1 = .ok listed) :
    ∃ (site : Site machine.directory workspace.tree) (rest : List String),
      output = site.path rest ∧
        site.Downward rest ∧
        (∀ part ∈ site.known, FileWork.holdsNull part = false) ∧
        (∀ taken,
          taken ≠ [] → taken <+: rest → workspace.tree.find? (site.place taken) = none) ∧
        ∀ path, path ∈ listed ↔
          ∃ taken, taken ≠ [] ∧ taken <+: rest ∧ path = site.path taken := by
  obtain ⟨known, rest, shape, members, gone, there⟩ :=
    FileWork.exists_of_missingFrom_eq_ok found
  rw [List.reverse_reverse] at shape
  obtain ⟨base, leads, holds, nullFree⟩ := exists_walk_of_seen home there
  let site : Site machine.directory workspace.tree := {
    anchor := output.anchor
    known
    base
    grounded
    leads
    holds }
  have isOutput : output = site.path rest := Site.eq_path rfl shape
  -- Behind a directory the first missing part leads to a free place.
  have first : ∀ part others,
      rest = part :: others → workspace.tree.isDirectory base = true →
        part ≠ ".." ∧ workspace.tree.find? (part :: base) = none := by
    rintro part others rfl isDirectory
    refine free_of_lookAt_concat grounded nameable nullFree leads isDirectory ?_
    exact gone _ ((members _).2 ⟨[part], by simp, by simp, rfl⟩)
  refine ⟨site, rest, isOutput, ?_, nullFree, ?_, members⟩
  · intro isDirectory turns
    obtain ⟨before, after, split⟩ := List.append_of_mem turns
    cases before with
    | nil => exact (first ".." after split isDirectory).1 rfl
    | cons part others =>
        have whole : output.parts = (known ++ part :: others) ++ ".." :: after := by
          rw [shape, split, List.append_assoc]
        obtain ⟨plain, free⟩ := first part (others ++ ".." :: after) split isDirectory
        exact straight _ _ whole (isMissing_of_free others leads isDirectory plain free)
  · intro taken some inside
    cases taken with
    | nil => exact absurd rfl some
    | cons part more =>
        obtain ⟨others, split⟩ := inside
        have free : workspace.tree.find? (part :: base) = none :=
          grounded.free_of_isDirectory fun isDirectory =>
            (first part (more ++ others) split.symm isDirectory).2
        have below : site.place [part] <:+ site.place (part :: more) :=
          Site.place_suffix_iff.2 ⟨more, rfl⟩
        exact grounded.free_of_suffix free below

end GrammarCorpus
