import GrammarCorpus.Text.Scan
import Mathlib.Data.List.Chain

namespace GrammarCorpus

/-!
# Where a text is cut

A scan cuts off a first piece where the text is the piece, the separator and a rest, and no
separator ends earlier. For separators of two characters this is a matter of neighbours: what
does not start with the second character may stand behind any text.
-/

/-- What begins a list with a mark on it ends in front of the mark, or goes on behind it. -/
theorem prefix_append_cons_cases
    {α : Type}
    {items front rest : List α}
    {mark : α}
    (beginning : items <+: front ++ mark :: rest) :
    items <+: front ∨ ∃ taken, taken <+: rest ∧ items = front ++ mark :: taken := by
  rcases List.prefix_or_prefix_of_prefix beginning (List.prefix_append _ _) with
    short | ⟨more, rfl⟩
  · exact .inl short
  · cases more with
    | nil => exact .inl (by simp)
    | cons item taken =>
        obtain ⟨rfl, inside⟩ :=
          List.cons_prefix_cons.1 ((List.prefix_append_right_inj front).1 beginning)
        exact .inr ⟨taken, inside, rfl⟩

/-- What lacks a mark does not reach up to it. -/
theorem prefix_append_cons_iff
    {α : Type}
    {items front rest : List α}
    {mark : α}
    (absent : mark ∉ items) :
    items <+: front ++ mark :: rest ↔ items <+: front := by
  constructor
  · intro beginning
    rcases prefix_append_cons_cases beginning with short | ⟨taken, -, rfl⟩
    · exact short
    · exact absurd (List.mem_append_right _ List.mem_cons_self) absent
  · exact fun beginning => beginning.trans (List.prefix_append _ _)

namespace Text

/-- What holds of the separator and the texts, and is kept by appending, holds of the whole. -/
theorem intercalate_induction
    (property : List Char → Prop)
    (nil : property [])
    (append : ∀ {first second}, property first → property second → property (first ++ second))
    {separator : List Char}
    {texts : List (List Char)}
    (isSeparator : property separator)
    (isText : ∀ text ∈ texts, property text) :
    property (separator.intercalate texts) := by
  induction texts with
  | nil => exact nil
  | cons text others inductionHypothesis =>
      have first := isText text List.mem_cons_self
      have later := inductionHypothesis fun other member =>
        isText other (List.mem_cons_of_mem _ member)
      cases others with
      | nil => simpa using first
      | cons other others =>
          rw [List.intercalate_cons_cons]
          exact append (append first isSeparator) later

section Pieces

variable {separator first rest : List Char} {character : Char}

/-- A separator in front ends an empty piece. -/
theorem splitOn_of_front (nonempty : separator ≠ []) :
    splitOn separator (separator ++ rest) = [] :: splitOn separator rest := by
  obtain ⟨start, others, rfl⟩ := List.exists_cons_of_ne_nil nonempty
  have hit : (start :: others).isPrefixOf (start :: (others ++ rest)) = true :=
    List.isPrefixOf_iff_prefix.2 ⟨rest, rfl⟩
  rw [List.cons_append, splitOn, splitOnFrom, if_pos hit, splitOnFrom_eq_drop]
  simp

/-- Where no separator starts, the first character belongs to the first piece. -/
theorem splitOn_cons (absent : ¬ separator <+: character :: rest) :
    splitOn separator (character :: rest) = consFirst character (splitOn separator rest) := by
  have miss : ¬ separator.isPrefixOf (character :: rest) = true :=
    fun hit => absent (List.isPrefixOf_iff_prefix.1 hit)
  rw [splitOn, splitOnFrom, if_neg miss]
  rfl

/-- The first piece ends where no separator has ended before. -/
theorem splitOn_append
    (nonempty : separator ≠ [])
    (absent : ¬ separator <:+: first ++ separator.dropLast) :
    splitOn separator (first ++ (separator ++ rest)) = first :: splitOn separator rest := by
  induction first with
  | nil => exact splitOn_of_front nonempty
  | cons character others inductionHypothesis =>
      have later := inductionHypothesis fun found =>
        absent (found.trans (List.suffix_cons _ _).isInfix)
      -- A separator in front would end before the one behind the piece.
      have miss : ¬ separator <+: character :: (others ++ (separator ++ rest)) := by
        intro hit
        have isFront : character :: others ++ separator.dropLast <+:
            character :: others ++ (separator ++ rest) :=
          (List.prefix_append_right_inj _).2
            ((List.dropLast_prefix _).trans (List.prefix_append _ _))
        refine absent (List.prefix_of_prefix_length_le hit isFront ?_).isInfix
        rw [List.length_append, List.length_dropLast, List.length_cons]
        omega
      rw [List.cons_append, splitOn_cons miss, later]
      rfl

/-- A text without the separator is one piece. -/
theorem splitOn_of_absent (absent : ¬ separator <:+: first) :
    splitOn separator first = [first] := by
  induction first with
  | nil => rfl
  | cons character others inductionHypothesis =>
      have later := inductionHypothesis fun found =>
        absent (found.trans (List.suffix_cons _ _).isInfix)
      rw [splitOn_cons fun hit => absent hit.isInfix, later]
      rfl

/-- There is always a first piece. -/
theorem exists_splitOn (separator characters : List Char) :
    ∃ first rest, splitOn separator characters = first :: rest := by
  have nonempty : ∀ pending, splitOnFrom separator pending characters ≠ [] := by
    induction characters with
    | nil => intro pending; cases pending <;> exact List.cons_ne_nil _ _
    | cons character rest inductionHypothesis =>
        intro pending
        cases pending with
        | succ pending => exact inductionHypothesis pending
        | zero =>
            rw [splitOnFrom]
            split
            · exact List.cons_ne_nil _ _
            · cases splitOnFrom separator 0 rest <;> exact List.cons_ne_nil _ _
  exact List.exists_cons_of_ne_nil (nonempty 0)

/-- A text is parted at the first mark. -/
theorem partition?_append
    {mark : Char}
    (absent : mark ∉ first) :
    partition? mark (first ++ mark :: rest) = some (first, rest) := by
  induction first with
  | nil => simp [partition?]
  | cons character others inductionHypothesis =>
      rw [List.mem_cons, not_or] at absent
      simp [partition?, Ne.symm absent.1, inductionHypothesis absent.2]

end Pieces

section Marks

variable {first rest : List Char} {mark : Char}

/-- A mark of one character in front ends an empty piece. -/
theorem splitOn_cons_self : splitOn [mark] (mark :: rest) = [] :: splitOn [mark] rest :=
  splitOn_of_front (List.cons_ne_nil mark [])

/-- Any other character belongs to the first piece. -/
theorem splitOn_cons_of_ne
    {character : Char}
    (differs : character ≠ mark) :
    splitOn [mark] (character :: rest) = consFirst character (splitOn [mark] rest) :=
  splitOn_cons fun found => differs (List.cons_prefix_cons.1 found).1.symm

/-- A mark of one character cuts a text wherever it stands. -/
theorem splitOn_append_cons :
    splitOn [mark] (first ++ mark :: rest) = splitOn [mark] first ++ splitOn [mark] rest := by
  induction first with
  | nil => exact splitOn_cons_self
  | cons character others inductionHypothesis =>
      rw [List.cons_append]
      by_cases same : character = mark
      · rw [same, splitOn_cons_self, splitOn_cons_self, inductionHypothesis, List.cons_append]
      · rw [splitOn_cons_of_ne same, splitOn_cons_of_ne same, inductionHypothesis]
        obtain ⟨piece, pieces, split⟩ := exists_splitOn [mark] others
        rw [split]
        rfl

/-- What lacks the mark only lengthens the first piece of what follows. -/
theorem splitOn_append_of_notMem
    {piece : List Char}
    {pieces : List (List Char)}
    (absent : mark ∉ first)
    (split : splitOn [mark] rest = piece :: pieces) :
    splitOn [mark] (first ++ rest) = (first ++ piece) :: pieces := by
  induction first with
  | nil => exact split
  | cons character others inductionHypothesis =>
      rw [List.mem_cons, not_or] at absent
      rw [List.cons_append, splitOn_cons_of_ne (Ne.symm absent.1), inductionHypothesis absent.2]
      rfl

/-- No mark of one character stands in a piece that was cut at it. -/
theorem notMem_of_mem_splitOn
    {piece characters : List Char}
    (member : piece ∈ splitOn [mark] characters) :
    mark ∉ piece := by
  induction characters generalizing piece with
  | nil => simp_all [splitOn, splitOnFrom]
  | cons character rest inductionHypothesis =>
      by_cases same : character = mark
      · rw [same, splitOn_cons_self, List.mem_cons] at member
        rcases member with rfl | later
        · exact List.not_mem_nil
        · exact inductionHypothesis later
      · obtain ⟨first, others, split⟩ := exists_splitOn [mark] rest
        rw [splitOn_cons_of_ne same, split, consFirst, List.mem_cons] at member
        rw [split] at inductionHypothesis
        rcases member with rfl | later
        · have absent := inductionHypothesis List.mem_cons_self
          simp [Ne.symm same, absent]
        · exact inductionHypothesis (List.mem_cons_of_mem _ later)

end Marks

section Erasing

variable {piece characters others : List Char} {character : Char}

/-- A piece in front is taken away. -/
theorem erase_of_front (nonempty : piece ≠ []) :
    erase piece (piece ++ characters) = erase piece characters := by
  rw [erase, splitOn_of_front nonempty]
  rfl

/-- Where no piece starts, the first character stays. -/
theorem erase_cons (absent : ¬ piece <+: character :: characters) :
    erase piece (character :: characters) = character :: erase piece characters := by
  rw [erase, erase, splitOn_cons absent]
  cases splitOn piece characters <;> rfl

/-- A text without the first character of a piece stays. -/
theorem erase_append
    {start : Char}
    {remaining : List Char}
    (absent : start ∉ characters) :
    erase (start :: remaining) (characters ++ others) =
      characters ++ erase (start :: remaining) others := by
  induction characters with
  | nil => rfl
  | cons character rest inductionHypothesis =>
      rw [List.mem_cons, not_or] at absent
      have miss : ¬ start :: remaining <+: character :: (rest ++ others) :=
        fun hit => absent.1 (List.cons_prefix_cons.1 hit).1
      rw [List.cons_append, erase_cons miss, inductionHypothesis absent.2, List.cons_append]

/-- A character that is in no piece stays, and no piece reaches over it. -/
theorem erase_append_cons
    (nonempty : piece ≠ [])
    (absent : character ∉ piece)
    (characters : List Char) :
    erase piece (characters ++ character :: others) =
      erase piece characters ++ character :: erase piece others := by
  by_cases hit : piece <+: characters
  · obtain ⟨rest, rfl⟩ := hit
    have shorter : rest.length < (piece ++ rest).length := by
      have := List.length_pos_of_ne_nil nonempty
      rw [List.length_append]
      omega
    rw [List.append_assoc, erase_of_front nonempty, erase_of_front nonempty]
    exact erase_append_cons nonempty absent rest
  · have miss : ¬ piece <+: characters ++ character :: others :=
      fun found => hit ((prefix_append_cons_iff absent).1 found)
    cases characters with
    | nil => exact erase_cons miss
    | cons first rest =>
        rw [List.cons_append] at miss ⊢
        rw [erase_cons miss, erase_cons hit, List.cons_append]
        exact congrArg _ (erase_append_cons nonempty absent rest)
termination_by characters.length

/-- Taking pieces away leaves the other characters in their order. -/
theorem erase_sublist
    (nonempty : piece ≠ [])
    (characters : List Char) :
    (erase piece characters).Sublist characters := by
  by_cases hit : piece <+: characters
  · obtain ⟨rest, rfl⟩ := hit
    have shorter : rest.length < (piece ++ rest).length := by
      have := List.length_pos_of_ne_nil nonempty
      rw [List.length_append]
      omega
    rw [erase_of_front nonempty]
    exact (erase_sublist nonempty rest).trans (List.sublist_append_right _ _)
  · cases characters with
    | nil => exact List.nil_sublist _
    | cons first rest =>
        rw [erase_cons hit]
        exact (erase_sublist nonempty rest).cons_cons first
termination_by characters.length

end Erasing

section Counting

variable {lengthAt? : List Char → Option Nat} {character : Char} {first rest : List Char}

/-- Nothing is counted where there is no match. -/
theorem countMatches_cons (absent : lengthAt? (character :: rest) = none) :
    countMatches lengthAt? (character :: rest) = countMatches lengthAt? rest := by
  rw [countMatches, countMatchesFrom, absent]
  rfl

/-- A match in front is counted, and the count goes on behind it. -/
theorem countMatches_append
    (nonempty : first ≠ [])
    (found : lengthAt? (first ++ rest) = some first.length) :
    countMatches lengthAt? (first ++ rest) = countMatches lengthAt? rest + 1 := by
  obtain ⟨character, others, rfl⟩ := List.exists_cons_of_ne_nil nonempty
  rw [List.cons_append] at found ⊢
  rw [countMatches, countMatchesFrom, found]
  change countMatchesFrom lengthAt? others.length (others ++ rest) + 1 = _
  rw [countMatchesFrom_eq_drop, List.drop_left]

end Counting

/-- The first character never has the second one behind it. -/
def Apart (left right : Char) (characters : List Char) : Prop :=
  characters.IsChain fun first second => ¬(first = left ∧ second = right)

/-- The text may stand behind any other: the two characters do not meet by that. -/
def Joinable (left right : Char) (characters : List Char) : Prop :=
  Apart left right characters ∧ characters.head? ≠ some right

section Neighbours

variable {left right : Char} {first second : List Char}

instance : Decidable (Apart left right first) :=
  inferInstanceAs (Decidable (List.IsChain _ _))

instance : Decidable (Joinable left right first) :=
  inferInstanceAs (Decidable (_ ∧ _))

/-- Two characters are apart where they do not occur as a piece. -/
theorem apart_iff : Apart left right first ↔ ¬ [left, right] <:+: first := by
  rw [Apart, List.isChain_iff_forall_rel_of_append_cons_cons]
  constructor
  · rintro apart ⟨front, back, rfl⟩
    exact apart (List.append_assoc front [left, right] back) ⟨rfl, rfl⟩
  · rintro absent _ _ front back rfl ⟨rfl, rfl⟩
    exact absent ⟨front, back, by simp⟩

/-- What may stand behind any text keeps the two characters apart. -/
theorem Apart.append (apart : Apart left right first) (joinable : Joinable left right second) :
    Apart left right (first ++ second) := by
  refine List.isChain_append.2 ⟨apart, joinable.1, ?_⟩
  rintro _ - _ isHead ⟨-, rfl⟩
  exact joinable.2 isHead

/-- Texts that may stand behind any other do so together. -/
theorem Joinable.append
    (isFirst : Joinable left right first)
    (isSecond : Joinable left right second) :
    Joinable left right (first ++ second) := by
  refine ⟨isFirst.1.append isSecond, ?_⟩
  cases first with
  | nil => exact isSecond.2
  | cons _ _ => exact isFirst.2

/-- An empty text may stand behind any other. -/
theorem joinable_nil : Joinable left right [] :=
  ⟨.nil, nofun⟩

/-- A text without the second character may stand behind any other. -/
theorem joinable_of_not_mem (absent : right ∉ first) : Joinable left right first := by
  refine ⟨apart_iff.2 ?_, fun isHead => absent (List.mem_of_mem_head? isHead)⟩
  exact fun found => absent (found.subset (List.mem_cons_of_mem _ List.mem_cons_self))

/-- A text in front in which no separator starts lengthens the first piece. -/
theorem splitOn_append_of_apart
    {rest piece : List Char}
    {pieces : List (List Char)}
    (apart : Apart left right first)
    (isLast : first.getLast? ≠ some left)
    (split : splitOn [left, right] rest = piece :: pieces) :
    splitOn [left, right] (first ++ rest) = (first ++ piece) :: pieces := by
  induction first with
  | nil => exact split
  | cons character others inductionHypothesis =>
      have later : splitOn [left, right] (others ++ rest) = (others ++ piece) :: pieces := by
        refine inductionHypothesis apart.tail fun same => isLast ?_
        rw [List.getLast?_cons, same]
        rfl
      have miss : ¬ [left, right] <+: character :: (others ++ rest) := by
        intro hit
        obtain ⟨isLeft, behind⟩ := List.cons_prefix_cons.1 hit
        cases others with
        | nil => exact isLast (congrArg some isLeft.symm)
        | cons next others =>
            have isRight := (List.cons_prefix_cons.1 behind).1
            exact (List.isChain_cons_cons.1 apart).1 ⟨isLeft.symm, isRight.symm⟩
      rw [List.cons_append, splitOn_cons miss, later]
      rfl

end Neighbours

end Text

end GrammarCorpus
