import GrammarCorpus.Oracle.Basic
import GrammarCorpus.Proofs.Files.Resolution

namespace GrammarCorpus

/-!
# Commands that are anchored

Hyacc is started from the directory of a trial, so a command with a slash is anchored where it
was given. What is kept is written without anything that a directory could change: it starts at
the root, and no part of it turns back. So it is kept again as it is, from wherever it is given.
-/

namespace Path

/-- The text of a place that is told in a directory: from the root, or below the directory. -/
def joined (directory place : String) : String :=
  if place.toList.head? = some '/' then place else Scratch.below directory place

variable {directory place : String}

/-- A text that starts with a slash is read from the root. -/
theorem anchor_ofText_ne_relative (absolute : place.toList.head? = some '/') :
    (ofText place).anchor ≠ .relative := by
  obtain ⟨rest, shape⟩ := List.head?_eq_some_iff.1 absolute
  have slashes : (place.toList.takeWhile (· = '/')).length ≠ 0 := by
    simp [shape]
  unfold ofText Anchor.ofSlashes
  split
  · contradiction
  · nofun
  · nofun

/-- Any other text is read from where one is. -/
theorem anchor_ofText_eq_relative (below : place.toList.head? ≠ some '/') :
    (ofText place).anchor = .relative := by
  have noSlashes : place.toList.takeWhile (· = '/') = [] := by
    cases shape : place.toList with
    | nil => rfl
    | cons first rest =>
        have apart : first ≠ '/' := by simpa [shape] using below
        simp [apart]
  rw [ofText, noSlashes]
  rfl

/-- What is read of the joined text is the place, seen from the directory. -/
theorem ofText_joined (directory place : String) :
    ofText (joined directory place) = (ofText directory).child place := by
  by_cases absolute : place.toList.head? = some '/'
  · rw [joined, if_pos absolute, child, join, if_neg (anchor_ofText_ne_relative absolute)]
  · rw [joined, if_neg absolute, child, join, if_pos (anchor_ofText_eq_relative absolute),
      ofText_below_of_head? absolute]

/-- From a directory that is told from the root, every place is seen from the root. -/
theorem head?_joined
    (absolute : directory.toList.head? = some '/')
    (place : String) :
    (joined directory place).toList.head? = some '/' := by
  unfold joined Scratch.below
  split
  · assumption
  · split <;> simp [absolute]

/-- Joined texts can be handed over if both can. -/
theorem holdsNull_joined
    (directoryHanded : FileWork.holdsNull directory = false)
    (placeHanded : FileWork.holdsNull place = false) :
    FileWork.holdsNull (joined directory place) = false := by
  have slash : FileWork.holdsNull "/" = false := by decide
  unfold joined Scratch.below
  split
  · exact placeHanded
  · split <;> simp [holdsNull_append, directoryHanded, placeHanded, slash]

section Resolved

variable {text : String}
variable (absolute : text.toList.head? = some '/') (noNull : FileWork.holdsNull text = false)

include absolute noNull

/-- What a text from the root is resolved to consists of names. -/
theorem isName_of_mem_collapse : ∀ part ∈ (ofText text).collapse.parts, IsName part := by
  intro part member
  obtain resolves := (resolvesTo_iff (anchor_ofText_ne_relative absolute)).2 rfl
  refine isName_of_mem_ofText noNull (resolves.subset member) ?_
  rintro rfl
  exact resolves.noTwoPoints member

/-- It is read again as it was written. -/
theorem ofText_text_collapse : ofText (ofText text).collapse.text = (ofText text).collapse :=
  ofText_text (anchor_ofText_ne_relative absolute) (isName_of_mem_collapse absolute noNull)

/-- Seen from anywhere and resolved again, it stays as it is. -/
theorem collapse_child_text_collapse (directory : Path) :
    (directory.child (ofText text).collapse.text).collapse = (ofText text).collapse := by
  have fromRoot : (ofText text).collapse.anchor ≠ .relative := anchor_ofText_ne_relative absolute
  rw [child, ofText_text_collapse absolute noNull, join, if_neg fromRoot]
  refine collapse_of_notMem fun member => ?_
  exact (isName_of_mem_collapse absolute noNull _ member).notTwoPoints rfl

omit noNull

/-- It is written with the slashes in front that were read. -/
theorem text_collapse_ofText :
    (ofText text).collapse.text =
      (if (text.toList.takeWhile (· = '/')).length = 2 then "//" else "/") ++
        "/".intercalate (ofText text).collapse.parts := by
  have slashes : (ofText text).anchor.text =
      if (text.toList.takeWhile (· = '/')).length = 2 then "//" else "/" := by
    have fromRoot := anchor_ofText_ne_relative absolute
    unfold ofText Anchor.ofSlashes at fromRoot ⊢
    split at fromRoot
    · contradiction
    · simp_all [Anchor.text]
    · simp_all [Anchor.text]
  have fromRoot : (ofText text).collapse.anchor ≠ .relative := anchor_ofText_ne_relative absolute
  rw [text_of_absolute fromRoot, ← slashes]
  rfl

/-- So it starts at the root itself. -/
theorem head?_text_collapse : (ofText text).collapse.text.toList.head? = some '/' := by
  rw [text_collapse_ofText absolute]
  split <;> simp

end Resolved

end Path

namespace Oracle

variable {command : String}

/-- A command with a slash is resolved from the directory where it is given. -/
theorem anchored_of_mem (slash : '/' ∈ command.toList) (directory : Path) :
    anchored directory command = (directory.child command).collapse.text :=
  if_pos (List.contains_iff_mem.2 slash)

/-- A command without a slash is left to be looked up by its name. -/
theorem anchored_of_notMem (noSlash : '/' ∉ command.toList) (directory : Path) :
    anchored directory command = command :=
  if_neg fun slash => noSlash (List.contains_iff_mem.1 slash)

/--
The command of hyacc is kept as it was given if there is no slash in it. Otherwise what is kept
is the place of the command as seen from the directory where it was given: names behind one
slash, or behind two where the joined text has exactly two in front, and they are what its parts
resolve to. Told in whatever directory, that is the same place, so the command is kept as it is
when it is given again.
-/
theorem hyacc_command_stays
    (directory command : String)
    (limit : Argument Seconds)
    (absolute : directory.toList.head? = some '/')
    (directoryHanded : FileWork.holdsNull directory = false)
    (commandHanded : FileWork.holdsNull command = false) :
    let kept := (hyacc (.ofText directory) (.of command) limit).command
    ('/' ∉ command.toList → kept = .of command) ∧
      ('/' ∈ command.toList →
        let joined := (Path.joined directory command).toList
        let slashes := if (joined.takeWhile (· = '/')).length = 2 then "//" else "/"
        ∃ parts, kept = .of (slashes ++ "/".intercalate parts) ∧
          (∀ part ∈ parts, Path.IsName part) ∧
          (∀ resolved, Path.ResolvesTo (Path.partsOf joined) resolved ↔ resolved = parts) ∧
          ∀ place,
            Path.joined place (slashes ++ "/".intercalate parts) =
              slashes ++ "/".intercalate parts) ∧
      ∀ (other : Path) (otherLimit : Argument Seconds),
        (hyacc other kept otherLimit).command = kept := by
  intro kept
  have fromRoot := Path.head?_joined absolute command
  have handed := Path.holdsNull_joined directoryHanded commandHanded
  have written := Path.text_collapse_ofText fromRoot
  have isKept : kept = .of (anchored (.ofText directory) command) := rfl
  refine ⟨fun noSlash => ?_, fun slash => ?_, fun other otherLimit => ?_⟩
  · rw [isKept, anchored_of_notMem noSlash]
  · refine ⟨_, ?_, Path.isName_of_mem_collapse fromRoot handed, fun resolved => ?_, fun place => ?_⟩
    · rw [isKept, anchored_of_mem slash, ← Path.ofText_joined, written]
    · exact Path.resolvesTo_iff (Path.anchor_ofText_ne_relative fromRoot)
    · rw [← written]
      exact if_pos (Path.head?_text_collapse fromRoot)
  · have again : anchored other (anchored (.ofText directory) command) =
        anchored (.ofText directory) command := by
      by_cases slash : '/' ∈ command.toList
      · have stillSlash := List.mem_of_mem_head? (Path.head?_text_collapse fromRoot)
        rw [anchored_of_mem slash, ← Path.ofText_joined, anchored_of_mem stillSlash,
          Path.collapse_child_text_collapse fromRoot handed]
      · rw [anchored_of_notMem slash, anchored_of_notMem slash]
    exact congrArg Argument.of again

/-- A command with points in it is resolved once, and then kept in the directory of a trial. -/
theorem hyacc_command_stays_of_detour :
    let directory := "/srv//runs/"
    let command := "../bin/./old/../hyacc"
    let kept := (hyacc (.ofText directory) (.of command) (.of defaultLimit)).command
    directory.toList.head? = some '/' ∧
      FileWork.holdsNull directory = false ∧
      FileWork.holdsNull command = false ∧
      '/' ∈ command.toList ∧
      kept = .of "/srv/bin/hyacc" ∧
      (∃ parts, kept = .of ("/" ++ "/".intercalate parts) ∧
        Path.ResolvesTo ["srv", "runs", "..", "bin", "old", "..", "hyacc"] parts) ∧
      (hyacc (.ofText "/tmp/cfg-gen-a/7") kept (.of defaultLimit)).command = kept := by
  intro directory command kept
  have absolute : directory.toList.head? = some '/' := by decide
  have directoryHanded : FileWork.holdsNull directory = false := by decide
  have commandHanded : FileWork.holdsNull command = false := by decide
  have slash : '/' ∈ command.toList := by decide
  have oneSlash : ¬ ((Path.joined directory command).toList.takeWhile (· = '/')).length = 2 := by
    decide +kernel
  have parts : Path.partsOf (Path.joined directory command).toList =
      ["srv", "runs", "..", "bin", "old", "..", "hyacc"] := by
    decide +kernel
  obtain ⟨-, resolved, again⟩ :=
    hyacc_command_stays directory command (.of defaultLimit) absolute directoryHanded commandHanded
  obtain ⟨kept, isKept, -, resolves, -⟩ := resolved slash
  rw [if_neg oneSlash] at isKept
  rw [parts] at resolves
  exact ⟨absolute, directoryHanded, commandHanded, slash, by decide +kernel,
    ⟨kept, isKept, (resolves kept).2 rfl⟩, again (.ofText "/tmp/cfg-gen-a/7") (.of defaultLimit)⟩

end Oracle

end GrammarCorpus
