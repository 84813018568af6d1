import GrammarCorpus.Proofs.Files.PathText

namespace GrammarCorpus

/-!
# The site of a corpus

The output directory of a corpus may be missing, with any number of directories above
it. The way to it then begins with parts that are there, and these lead to its site. The
site is a directory, or a file that blocks the way. Behind a directory all parts lead
downwards, so that the place of every path of the corpus is known without a tree: its
parts behind the site, the innermost first.
-/

open FileTree

/-- What stands somewhere in a tree, and a path that leads to it. -/
structure Site (directory : Location) (tree : FileTree) where
  anchor : Anchor
  known : List String
  base : Location
  grounded : tree.Grounded
  leads : tree.walk (if anchor = .relative then directory else []) known = .ok base
  holds : tree.contains base = true

namespace Site

variable {directory : Location} {old tree : FileTree}
variable (site : Site directory old)
variable {parts : List String} {location : Location}

/-- The path that goes on behind the site. -/
def path (parts : List String) : Path :=
  ⟨site.anchor, site.known ++ parts⟩

/-- Where parts lead that lead downwards from the site. -/
def place (parts : List String) : Location :=
  parts.reverse ++ site.base

/-- Parts that do not turn back; behind a file that makes no difference. -/
def Downward (parts : List String) : Prop :=
  old.isDirectory site.base = true → ".." ∉ parts

/-- No name of a path is too long, and neither is the path itself. -/
def Usable (parts : List String) : Prop :=
  (site.path parts).text.utf8ByteSize ≤ Work.pathLimit ∧ ∀ part ∈ parts, Short part

/-- A path that leads downwards from the site to a place that was free. -/
def Fresh (path : Path) : Prop :=
  ∃ parts,
    parts ≠ [] ∧
      site.Downward parts ∧
      path = site.path parts ∧
      old.find? (site.place parts) = none

variable {site}

/-- A path with the anchor of the site, and with parts behind it. -/
theorem eq_path
    {path : Path}
    (anchor : path.anchor = site.anchor)
    (whole : path.parts = (site.path parts).parts) :
    path = site.path parts := by
  cases path
  cases anchor
  cases whole
  rfl

/-- Different parts lead to different places. -/
theorem place_injective
    {first second : List String}
    (same : site.place first = site.place second) :
    first = second :=
  List.reverse_inj.1 (List.append_cancel_right same)

/-- Different parts give different paths. -/
theorem path_injective
    {first second : List String}
    (same : site.path first = site.path second) :
    first = second :=
  List.append_cancel_left (Path.mk.inj same).2

/-- Behind the site there is no root. -/
theorem place_ne_nil (some : parts ≠ []) : site.place parts ≠ [] := by
  simp [place, some]

/-- One more part leads one step further down. -/
theorem place_concat (parts : List String) (last : String) :
    site.place (parts ++ [last]) = last :: site.place parts := by
  simp [place]

/-- What goes on behind parts lies below their place. -/
theorem place_suffix_iff {first second : List String} :
    site.place first <:+ site.place second ↔ first <+: second := by
  constructor
  · rintro ⟨more, same⟩
    refine ⟨more.reverse, ?_⟩
    rw [← List.reverse_inj, List.reverse_append, List.reverse_reverse]
    refine (List.append_left_inj site.base).1 ?_
    rw [List.append_assoc]
    exact same
  · rintro ⟨more, rfl⟩
    refine ⟨more.reverse, ?_⟩
    simp [place]

/-- The beginning of a path leads towards the site or goes on behind it. -/
theorem prefix_cases
    {beginning : List String}
    (onTheWay : beginning <+: (site.path parts).parts) :
    beginning <+: site.known ∨
      ∃ taken, taken ≠ [] ∧ taken <+: parts ∧ beginning = (site.path taken).parts := by
  have known : site.known <+: (site.path parts).parts := List.prefix_append _ _
  rcases List.prefix_or_prefix_of_prefix onTheWay known with short | ⟨taken, rfl⟩
  · exact .inl short
  · cases taken with
    | nil => exact .inl (by simp)
    | cons part rest =>
        exact .inr ⟨_, by simp, (List.prefix_append_right_inj _).1 onTheWay, rfl⟩

/-- What does not turn back does not do so before its end. -/
theorem Downward.of_beginning
    {taken : List String}
    (downward : site.Downward parts)
    (onTheWay : taken <+: parts) :
    site.Downward taken :=
  fun isDirectory member => downward isDirectory (onTheWay.subset member)

/-- Names lead downwards. -/
theorem Downward.append
    {more : List String}
    (downward : site.Downward parts)
    (plain : ".." ∉ more) :
    site.Downward (parts ++ more) := by
  intro isDirectory member
  rcases List.mem_append.1 member with inside | further
  · exact downward isDirectory inside
  · exact plain further

/-- The site is a directory if it is one in a greater tree. -/
theorem isDirectory_of_within
    (within : old.Within tree)
    (isDirectory : tree.isDirectory site.base = true) :
    old.isDirectory site.base = true := by
  obtain ⟨entry, found⟩ := contains_iff.1 site.holds
  rw [isDirectory_iff, found]
  rw [isDirectory_iff, within _ _ found] at isDirectory
  exact isDirectory

/-- Behind the site a walk leads downwards, through directories. -/
theorem eq_place_of_walk
    (within : old.Within tree)
    (some : parts ≠ [])
    (downward : site.Downward parts)
    (leads : tree.walk (if site.anchor = .relative then directory else [])
      (site.path parts).parts = .ok location) :
    location = site.place parts ∧
      (∀ part ∈ parts, Short part) ∧
      tree.isDirectory location.tail = true := by
  change tree.walk _ (site.known ++ parts) = _ at leads
  rw [walk_append, within.walk site.leads] at leads
  have isDirectory : tree.isDirectory site.base = true := by
    cases parts with
    | nil => exact absurd rfl some
    | cons part rest =>
        simp only [Except.bind, walk] at leads
        cases entered : tree.enter site.base part with
        | error cause =>
            rw [entered] at leads
            cases leads
        | ok next => exact isDirectory_of_enter entered
  have plain := downward (isDirectory_of_within within isDirectory)
  obtain ⟨same, names, above⟩ := walk_eq_ok_of_plain plain leads
  exact ⟨same, names, above some⟩

/-- Behind the site a path leads downwards, through directories. -/
theorem eq_place_of_resolve
    (within : old.Within tree)
    (some : parts ≠ [])
    (downward : site.Downward parts)
    (leads : tree.resolve directory (site.path parts) = .ok location) :
    location = site.place parts ∧
      site.Usable parts ∧
      tree.isDirectory location.tail = true := by
  unfold resolve at leads
  split at leads
  · cases leads
  · rename_i short
    obtain ⟨same, names, above⟩ := eq_place_of_walk within some downward leads
    exact ⟨same, ⟨Nat.not_lt.1 short, names⟩, above⟩

/-- A path leads to its place if there is a directory above. -/
theorem resolve_eq_place
    (within : old.Within tree)
    (grounded : tree.Grounded)
    (some : parts ≠ [])
    (downward : site.Downward parts)
    (usable : site.Usable parts)
    (above : tree.isDirectory (site.place parts).tail = true) :
    tree.resolve directory (site.path parts) = .ok (site.place parts) := by
  obtain ⟨outer, last, rfl⟩ : ∃ outer last, parts = outer ++ [last] :=
    ⟨_, _, (List.dropLast_concat_getLast some).symm⟩
  rw [place_concat] at above
  have isDirectory : tree.isDirectory site.base = true := by
    rcases List.eq_nil_or_concat outer with rfl | ⟨others, name, rfl⟩
    · exact above
    · rw [List.concat_eq_append, List.tail_cons, place_concat] at above
      exact grounded.isDirectory_of_suffix (contains_of_isDirectory above)
        (List.suffix_append _ _)
  have plain := downward (isDirectory_of_within within isDirectory)
  unfold resolve
  rw [if_neg (Nat.not_lt.2 usable.1)]
  change tree.walk _ (site.known ++ (outer ++ [last])) = _
  rw [walk_append, show (site.path (outer ++ [last])).anchor = site.anchor from rfl,
    within.walk site.leads, place_concat]
  exact grounded.walk_of_isDirectory plain usable.2 above

/-- A path leads to its place if there is something. -/
theorem resolve_eq_place_of_contains
    (within : old.Within tree)
    (grounded : tree.Grounded)
    (some : parts ≠ [])
    (downward : site.Downward parts)
    (usable : site.Usable parts)
    (holds : tree.contains (site.place parts) = true) :
    tree.resolve directory (site.path parts) = .ok (site.place parts) := by
  obtain ⟨outer, last, rfl⟩ : ∃ outer last, parts = outer ++ [last] :=
    ⟨_, _, (List.dropLast_concat_getLast some).symm⟩
  refine resolve_eq_place within grounded some downward usable ?_
  rw [place_concat] at holds ⊢
  exact grounded last _ holds

/-- On the way to the site everything is there. -/
theorem contains_of_known
    (within : old.Within tree)
    (onTheWay : parts <+: site.known)
    (leads : tree.resolve directory ⟨site.anchor, parts⟩ = .ok location) :
    tree.contains location = true := by
  obtain ⟨more, whole⟩ := onTheWay
  have way := site.leads
  rw [← whole] at way
  obtain ⟨middle, first, there⟩ := contains_of_walk_append way site.holds
  unfold resolve at leads
  split at leads
  · cases leads
  · rw [within.walk first] at leads
    cases leads
    exact within.contains there

end Site

end GrammarCorpus
