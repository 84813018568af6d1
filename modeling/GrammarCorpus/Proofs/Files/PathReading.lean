import GrammarCorpus.Corpus.Scratch
import GrammarCorpus.Proofs.Files.PathText
import GrammarCorpus.Proofs.Text.Splitting
import Mathlib.Algebra.Ring.Nat

namespace GrammarCorpus

/-!
# Reading paths that are composed as texts

The path of a scratch directory is composed as a text and read afterwards. What is read is
the path of the directory above with one more part, however the text above ends; and it is
written with no more bytes than the text has, so it can be followed wherever the text could.
-/

namespace Path

/-- The parts that are read from characters. -/
def partsOf (characters : List Char) : List String :=
  ((Text.splitOn ['/'] characters).filter isPart).map String.ofList

/-- What stands behind a slash is read by itself. -/
theorem partsOf_append_cons (first rest : List Char) :
    partsOf (first ++ '/' :: rest) = partsOf first ++ partsOf rest := by
  unfold partsOf
  rw [Text.splitOn_append_cons, List.filter_append, List.map_append]

/-- A name is the only part that is read from it. -/
theorem partsOf_name {name : String} (isName : IsName name) : partsOf name.toList = [name] :=
  (Path.mk.inj (ofText_isName isName)).2

/-- Slashes in front stay in front of what goes on behind another slash, or without one. -/
theorem takeWhile_append
    {characters : List Char}
    {others : List Char}
    (ends : characters.all (· = '/') = true → others.head? ≠ some '/') :
    (characters ++ others).takeWhile (· = '/') = characters.takeWhile (· = '/') := by
  induction characters with
  | nil =>
      cases others with
      | nil => rfl
      | cons first rest =>
          have apart : first ≠ '/' := by simpa using ends rfl
          simp [apart]
  | cons first rest inductionHypothesis =>
      by_cases slash : first = '/'
      · simp only [List.cons_append, slash, List.takeWhile_cons, decide_true, if_true]
        rw [inductionHypothesis fun all => ends (by simpa [slash] using all)]
      · simp [slash]

/-- What stands right behind nothing, or behind a slash, is read by itself as well. -/
theorem partsOf_append
    {characters : List Char}
    (isOpen : characters = [] ∨ characters.getLast? = some '/')
    (others : List Char) :
    partsOf (characters ++ others) = partsOf characters ++ partsOf others := by
  rcases List.eq_nil_or_concat characters with rfl | ⟨before, last, rfl⟩
  · rfl
  · obtain rfl : last = '/' := by simpa using isOpen
    have shorter : partsOf (before ++ ['/']) = partsOf before := by
      rw [partsOf_append_cons]
      exact List.append_nil _
    rw [List.concat_eq_append, shorter, List.append_assoc]
    exact partsOf_append_cons before others

/-- A text that does not start at the root is read below a directory as parts behind its parts. -/
theorem ofText_below_of_head?
    {text : String}
    (noSlash : text.toList.head? ≠ some '/')
    (directory : String) :
    ofText (Scratch.below directory text) =
      { ofText directory with parts := (ofText directory).parts ++ (ofText text).parts } := by
  by_cases open? : (directory = "" || directory.toList.getLast? = some '/') = true
  · have whole : (Scratch.below directory text).toList = directory.toList ++ text.toList := by
      rw [Scratch.below, if_pos open?, String.toList_append]
    unfold ofText
    rw [whole, takeWhile_append fun _ => noSlash]
    refine congrArg _ (partsOf_append ?_ text.toList)
    rw [Bool.or_eq_true, decide_eq_true_eq, decide_eq_true_eq] at open?
    exact open?.imp_left fun empty => congrArg String.toList empty
  · have whole : (Scratch.below directory text).toList =
        directory.toList ++ '/' :: text.toList := by
      rw [Scratch.below, if_neg open?, String.toList_append, String.toList_append,
        List.append_assoc]
      rfl
    have ends : directory.toList.all (· = '/') = true → ('/' :: text.toList).head? ≠ some '/' := by
      intro all
      rw [Bool.or_eq_true, decide_eq_true_eq, decide_eq_true_eq, not_or] at open?
      exfalso
      rcases List.eq_nil_or_concat directory.toList with none | ⟨before, last, shape⟩
      · exact open?.1 (String.toList_injective none)
      · rw [shape] at all open?
        simp_all
    unfold ofText
    rw [whole, takeWhile_append ends]
    exact congrArg _ (partsOf_append_cons directory.toList text.toList)

/-- The path of a place below a directory has the name of the place as its last part. -/
theorem ofText_below
    {name : String}
    (isName : IsName name)
    (directory : String) :
    ofText (Scratch.below directory name) = (ofText directory).child name := by
  have noSlash : name.toList.head? ≠ some '/' :=
    fun first => isName.noSlash (List.mem_of_mem_head? first)
  rw [ofText_below_of_head? noSlash, child_isName isName, ofText_isName isName]

/-- The bytes that pieces take with a slash behind each. -/
def weight (pieces : List (List Char)) : Nat :=
  (pieces.map fun piece => (String.ofList piece).utf8ByteSize + 1).sum

/-- The first character of a text takes its bytes. -/
theorem utf8ByteSize_ofList_cons (character : Char) (others : List Char) :
    (String.ofList (character :: others)).utf8ByteSize =
      (String.ofList [character]).utf8ByteSize + (String.ofList others).utf8ByteSize := by
  rw [← List.singleton_append, String.ofList_append, String.utf8ByteSize_append]

/-- Cutting a text keeps its bytes. -/
theorem weight_splitOn (characters : List Char) :
    weight (Text.splitOn ['/'] characters) = (String.ofList characters).utf8ByteSize + 1 := by
  induction characters with
  | nil => rfl
  | cons character others inductionHypothesis =>
      rw [utf8ByteSize_ofList_cons]
      by_cases same : character = '/'
      · rw [same, Text.splitOn_cons_self, weight, List.map_cons, List.sum_cons, ← weight,
          inductionHypothesis, show (String.ofList ['/']).utf8ByteSize = 1 by decide,
          show (String.ofList []).utf8ByteSize = 0 by decide]
        omega
      · obtain ⟨piece, pieces, split⟩ := Text.exists_splitOn ['/'] others
        rw [split, weight, List.map_cons, List.sum_cons] at inductionHypothesis
        rw [Text.splitOn_cons_of_ne same, split, Text.consFirst, weight, List.map_cons,
          List.sum_cons, utf8ByteSize_ofList_cons]
        omega

/-- Pieces that are left out take nothing. -/
theorem weight_filter_le (keeps : List Char → Bool) (pieces : List (List Char)) :
    weight (pieces.filter keeps) ≤ weight pieces := by
  induction pieces with
  | nil => exact Nat.le_refl _
  | cons piece rest inductionHypothesis =>
      unfold weight at inductionHypothesis ⊢
      rw [List.filter_cons]
      split
      · rw [List.map_cons, List.map_cons, List.sum_cons, List.sum_cons]
        exact Nat.add_le_add_left inductionHypothesis _
      · rw [List.map_cons, List.sum_cons]
        exact Nat.le_trans inductionHypothesis (Nat.le_add_left _ _)

/-- The slashes in front end empty pieces, which are left out. -/
theorem weight_parts_le (characters : List Char) :
    weight ((Text.splitOn ['/'] characters).filter isPart) +
        (characters.takeWhile (· = '/')).length ≤
      (String.ofList characters).utf8ByteSize + 1 := by
  induction characters with
  | nil => decide
  | cons character others inductionHypothesis =>
      by_cases same : character = '/'
      · have skipped : (([] : List Char) :: Text.splitOn ['/'] others).filter isPart =
            (Text.splitOn ['/'] others).filter isPart := rfl
        have slash : (String.ofList ['/']).utf8ByteSize = 1 := by decide
        rw [utf8ByteSize_ofList_cons, same, Text.splitOn_cons_self, skipped, slash,
          List.takeWhile_cons, if_pos (by decide), List.length_cons]
        omega
      · have fewer := weight_filter_le isPart (Text.splitOn ['/'] (character :: others))
        rw [weight_splitOn] at fewer
        rw [List.takeWhile_cons, if_neg (by simpa using same)]
        exact fewer

/-- Pieces with slashes between them take a byte less than with a slash behind each. -/
theorem utf8ByteSize_intercalate
    {pieces : List (List Char)}
    (some : pieces ≠ []) :
    ("/".intercalate (pieces.map String.ofList)).utf8ByteSize + 1 = weight pieces := by
  induction pieces with
  | nil => exact absurd rfl some
  | cons piece rest inductionHypothesis =>
      cases rest with
      | nil => simp [weight]
      | cons second others =>
          have later := inductionHypothesis (List.cons_ne_nil _ _)
          have slash : "/".utf8ByteSize = 1 := by decide
          have whole : weight (piece :: second :: others) =
              (String.ofList piece).utf8ByteSize + 1 + weight (second :: others) := List.sum_cons
          rw [whole, ← later, List.map_cons, List.map_cons, String.intercalate_cons_cons,
            String.utf8ByteSize_append, String.utf8ByteSize_append, slash]
          omega

/-- An anchor takes no more bytes than the slashes it was read from. -/
theorem utf8ByteSize_anchor_le (slashes : Nat) :
    (Anchor.ofSlashes slashes).text.utf8ByteSize ≤ slashes := by
  unfold Anchor.ofSlashes
  split
  · decide
  · decide
  · rename_i none _
    have isRoot : Anchor.root.text.utf8ByteSize = 1 := by decide
    rw [isRoot]
    exact Nat.one_le_iff_ne_zero.2 none

/-- A path with parts is written as its anchor and its parts. -/
theorem text_of_parts {path : Path} (some : path.parts ≠ []) :
    path.text = path.anchor.text ++ "/".intercalate path.parts := by
  rw [Path.text, if_neg (by simp [some])]

/-- Reading a path makes it no longer. -/
theorem utf8ByteSize_ofText_le
    {text : String}
    (some : (ofText text).parts ≠ []) :
    (ofText text).text.utf8ByteSize ≤ text.utf8ByteSize := by
  have anchor := utf8ByteSize_anchor_le (text.toList.takeWhile (· = '/')).length
  have parts := weight_parts_le text.toList
  have pieces : (Text.splitOn ['/'] text.toList).filter isPart ≠ [] := by
    intro none
    exact some (by simp [ofText, none])
  rw [← utf8ByteSize_intercalate pieces, String.ofList_toList] at parts
  rw [text_of_parts some, String.utf8ByteSize_append]
  change (Anchor.ofSlashes _).text.utf8ByteSize + ("/".intercalate (List.map _ _)).utf8ByteSize ≤ _
  omega

/-- A path below the root takes the bytes of its names and one more for each. -/
theorem utf8ByteSize_text_root
    {parts : List String}
    (some : parts ≠ []) :
    (Path.text ⟨.root, parts⟩).utf8ByteSize =
      (parts.map fun part => part.utf8ByteSize + 1).sum := by
  have slash : Anchor.root.text.utf8ByteSize = 1 := by decide
  have pieces : (parts.map String.toList).map String.ofList = parts := by
    simp
  have joined := @utf8ByteSize_intercalate (parts.map String.toList) (by simpa using some)
  rw [pieces, weight, List.map_map] at joined
  rw [text_of_parts some, String.utf8ByteSize_append, slash, Nat.add_comm, joined]
  refine congrArg List.sum (List.map_congr_left fun part _ => ?_)
  rw [Function.comp_apply, String.ofList_toList]

/-- More parts behind others make their text no shorter. -/
theorem utf8ByteSize_intercalate_le_append (parts more : List String) :
    ("/".intercalate parts).utf8ByteSize ≤ ("/".intercalate (parts ++ more)).utf8ByteSize := by
  induction parts with
  | nil => exact Nat.zero_le _
  | cons part rest inductionHypothesis =>
      cases rest with
      | nil =>
          cases more with
          | nil => exact Nat.le_refl _
          | cons next others =>
              rw [List.singleton_append, String.intercalate_cons_cons, String.intercalate_singleton,
                String.utf8ByteSize_append, String.utf8ByteSize_append]
              omega
      | cons second others =>
          rw [List.cons_append] at inductionHypothesis
          rw [List.cons_append, List.cons_append, String.intercalate_cons_cons,
            String.intercalate_cons_cons, String.utf8ByteSize_append, String.utf8ByteSize_append,
            String.utf8ByteSize_append, String.utf8ByteSize_append]
          omega

/-- A path that goes on has no shorter text. -/
theorem utf8ByteSize_text_le_append
    {parts : List String}
    (some : parts ≠ [])
    (anchor : Anchor)
    (more : List String) :
    (Path.text ⟨anchor, parts⟩).utf8ByteSize ≤
      (Path.text ⟨anchor, parts ++ more⟩).utf8ByteSize := by
  have further : parts ++ more ≠ [] := List.append_ne_nil_of_left_ne_nil some more
  rw [@text_of_parts ⟨anchor, parts⟩ some, @text_of_parts ⟨anchor, _⟩ further,
    String.utf8ByteSize_append, String.utf8ByteSize_append]
  exact Nat.add_le_add_left (utf8ByteSize_intercalate_le_append parts more) _

/-- A name of one letter, as often as it may be repeated, can be handed over. -/
theorem holdsNull_replicate {letter : Char} (notNull : letter ≠ Char.ofNat 0) (count : Nat) :
    FileWork.holdsNull (String.ofList (List.replicate count letter)) = false := by
  rw [FileWork.holdsNull, String.toList_ofList, ← Bool.not_eq_true, List.contains_iff_mem,
    List.mem_replicate]
  exact fun member => notNull member.2.symm

/-- Every letter of such a name takes its bytes. -/
theorem utf8ByteSize_replicate (letter : Char) (count : Nat) :
    (String.ofList (List.replicate count letter)).utf8ByteSize =
      count * (String.ofList [letter]).utf8ByteSize := by
  induction count with
  | zero => simp
  | succ count inductionHypothesis =>
      rw [List.replicate_succ, utf8ByteSize_ofList_cons, inductionHypothesis, Nat.succ_mul,
        Nat.add_comm]

/-- A path that is read from a text can be handed over if the text can. -/
theorem holdsNull_ofText
    {text : String}
    (noNull : FileWork.holdsNull text = false) :
    FileWork.holdsNull (ofText text).text = false := by
  rw [holdsNull_text, List.any_eq_false]
  intro part member null
  obtain ⟨piece, isPiece, rfl⟩ := List.mem_map.1 member
  rw [FileWork.holdsNull, List.contains_iff_mem, String.toList_ofList] at null
  have occurs : Char.ofNat 0 ∈ text.toList :=
    (Text.erase_sublist (List.cons_ne_nil '/' []) text.toList).subset
      (List.mem_flatten.2 ⟨piece, (List.mem_filter.1 isPiece).1, null⟩)
  rw [FileWork.holdsNull, ← Bool.not_eq_true, List.contains_iff_mem] at noNull
  exact noNull occurs

end Path

end GrammarCorpus
