namespace GrammarCorpus

/-!
# Scanning characters from left to right

Splitting at a separator, removing a piece, and counting matches all read the
characters once, and never look at the same character for two different hits:
after a hit the scan goes on behind it. The number of characters that belong to
the last hit is carried along as `pending`, so each scan is structural on the
characters that are left.
-/

namespace Text

/-- Puts a character in front of the first piece. -/
def consFirst (character : Char) : List (List Char) → List (List Char)
  | [] => [[character]]
  | piece :: pieces => (character :: piece) :: pieces

/-- The pieces left when `pending` characters are passed over first. -/
def splitOnFrom (separator : List Char) : Nat → List Char → List (List Char)
  | _, [] => [[]]
  | pending + 1, _ :: rest => splitOnFrom separator pending rest
  | 0, character :: rest =>
      if separator.isPrefixOf (character :: rest) then
        [] :: splitOnFrom separator (separator.length - 1) rest
      else
        consFirst character (splitOnFrom separator 0 rest)

/--
The pieces between the leftmost, non-overlapping occurrences of a nonempty
separator. There is one more piece than there are occurrences.
-/
def splitOn (separator characters : List Char) : List (List Char) :=
  splitOnFrom separator 0 characters

/-- The lines of a text; only the line feed ends a line. -/
def lines (characters : List Char) : List (List Char) :=
  splitOn ['\n'] characters

/-- The characters without the occurrences of a nonempty piece. -/
def erase (piece characters : List Char) : List Char :=
  (splitOn piece characters).flatten

/-- The text on both sides of the first occurrence of a character. -/
def partition? (mark : Char) : List Char → Option (List Char × List Char)
  | [] => none
  | character :: rest =>
      if character = mark then
        some ([], rest)
      else
        (partition? mark rest).map fun sides => (character :: sides.1, sides.2)

/-- Whether the piece occurs somewhere. -/
def occurs (piece : List Char) : List Char → Bool
  | [] => piece.isEmpty
  | character :: rest =>
      piece.isPrefixOf (character :: rest) || occurs piece rest

/--
The number of matches when `pending` characters are passed over first. The
function `lengthAt?` gives the length of the match at the front of a text.
-/
def countMatchesFrom (lengthAt? : List Char → Option Nat) : Nat → List Char → Nat
  | _, [] => 0
  | pending + 1, _ :: rest => countMatchesFrom lengthAt? pending rest
  | 0, character :: rest =>
      match lengthAt? (character :: rest) with
      | some length => countMatchesFrom lengthAt? (length - 1) rest + 1
      | none => countMatchesFrom lengthAt? 0 rest

/-- The number of leftmost, non-overlapping matches. -/
def countMatches (lengthAt? : List Char → Option Nat) (characters : List Char) : Nat :=
  countMatchesFrom lengthAt? 0 characters

/-- Passing characters over is dropping them. -/
theorem splitOnFrom_eq_drop
    (separator characters : List Char)
    (pending : Nat) :
    splitOnFrom separator pending characters =
      splitOn separator (characters.drop pending) := by
  induction characters generalizing pending with
  | nil =>
      cases pending <;> simp [splitOn, splitOnFrom]
  | cons character rest inductionHypothesis =>
      cases pending with
      | zero => rfl
      | succ pending => simpa [splitOnFrom] using inductionHypothesis pending

/-- A text that lacks a character of the separator is one piece. -/
theorem splitOn_eq_singleton
    {separator characters : List Char}
    {mark : Char}
    (inside : mark ∈ separator)
    (absent : mark ∉ characters) :
    splitOn separator characters = [characters] := by
  unfold splitOn
  induction characters with
  | nil => rfl
  | cons character rest inductionHypothesis =>
      have apart : separator.isPrefixOf (character :: rest) = false := by
        cases found : separator.isPrefixOf (character :: rest) with
        | false => rfl
        | true => exact absurd ((List.isPrefixOf_iff_prefix.1 found).subset inside) absent
      have further := inductionHypothesis fun member => absent (List.mem_cons_of_mem _ member)
      simp [splitOnFrom, apart, further, consFirst]

/-- Passing characters over is dropping them. -/
theorem countMatchesFrom_eq_drop
    (lengthAt? : List Char → Option Nat)
    (characters : List Char)
    (pending : Nat) :
    countMatchesFrom lengthAt? pending characters =
      countMatches lengthAt? (characters.drop pending) := by
  induction characters generalizing pending with
  | nil =>
      cases pending <;> simp [countMatches, countMatchesFrom]
  | cons character rest inductionHypothesis =>
      cases pending with
      | zero => rfl
      | succ pending => simpa [countMatchesFrom] using inductionHypothesis pending

/-- A piece occurs exactly when the text has a part before it and a part behind it. -/
theorem occurs_eq_true_iff
    {piece characters : List Char} :
    occurs piece characters = true ↔ piece <:+: characters := by
  induction characters with
  | nil =>
      simp [occurs]
  | cons character rest inductionHypothesis =>
      simp [occurs, inductionHypothesis, List.infix_cons_iff]

end Text

end GrammarCorpus
