import GrammarCorpus.Oracle.Verdict
import GrammarCorpus.Proofs.Text.Lines
import Mathlib.Data.List.Infix

namespace GrammarCorpus

/-!
# The lines that decide

Hyacc is read line by line: the first line may tell that it gave up, some later line names the
number of lookahead tokens, and some tell how far the search went. All other lines, the exit
code and the error stream matter only where hyacc neither gave up nor found a number.
-/

/-- A marker is mentioned where it stands as a piece. -/
@[simp]
theorem mentions_eq_true_iff
    {marker : String}
    {text : List Char} :
    mentions marker text = true ↔ marker.toList <:+: text :=
  Text.occurs_eq_true_iff

/-- A marker is not mentioned where it does not stand as a piece. -/
@[simp]
theorem mentions_eq_false_iff
    {marker : String}
    {text : List Char} :
    mentions marker text = false ↔ ¬ marker.toList <:+: text := by
  rw [← mentions_eq_true_iff, Bool.not_eq_true]

/-- Joined lines are the lines of their text. -/
theorem lines_joinLines
    {lines : List (List Char)}
    (single : ∀ line ∈ lines, '\n' ∉ line)
    (nonempty : lines ≠ []) :
    Text.lines (joinLines lines).toList = lines := by
  have spelled : (joinLines lines).toList = ['\n'].intercalate lines := by
    rw [joinLines, String.toList_intercalate, List.map_map]
    simp
  rw [spelled, Text.lines_intercalate single nonempty]

namespace Hyacc

variable {out err : String} {code : Int}

/-- The last line that names the number of lookahead tokens. -/
def foundLine? (lines : List (List Char)) : Option (List Char) :=
  lines.reverse.find? (mentions foundMarker)

/-- Some line names the number if the number is named anywhere. -/
theorem foundLine?_isSome (characters : List Char) :
    (foundLine? (Text.lines characters)).isSome ↔ foundMarker.toList <:+: characters := by
  rw [Text.infix_iff_exists_line (by decide), foundLine?, List.find?_isSome]
  simp

/-- Behind the last line that names the number, no line does. -/
theorem exists_of_foundLine?
    {lines : List (List Char)}
    {last : List Char}
    (found : foundLine? lines = some last) :
    foundMarker.toList <:+: last ∧
      ∃ before after, lines = before ++ last :: after ∧
        ∀ line ∈ after, ¬ foundMarker.toList <:+: line := by
  obtain ⟨named, after, before, split, silent⟩ := List.find?_eq_some_iff_append.1 found
  refine ⟨mentions_eq_true_iff.1 named, before.reverse, after.reverse, ?_, ?_⟩
  · rw [← List.reverse_reverse lines, split]
    simp
  · simpa using silent

/-- Lines that do not name the number do not change which is the last that does. -/
theorem foundLine?_append
    (lines : List (List Char))
    {further : List (List Char)}
    (silent : ∀ line ∈ further, ¬ foundMarker.toList <:+: line) :
    foundLine? (lines ++ further) = foundLine? lines := by
  have nothing : further.reverse.find? (mentions foundMarker) = none := by
    rw [List.find?_eq_none]
    simpa using silent
  rw [foundLine?, List.reverse_append, List.find?_append, nothing, Option.none_or]
  rfl

/-- Lines that tell of no step do not change how far the search went. -/
theorem stepLines_append
    (lines : List (List Char))
    {further : List (List Char)}
    (silent : ∀ line ∈ further, ¬ stepMarker.toList <:+: line) :
    stepLines (lines ++ further) = stepLines lines := by
  have nothing : further.filter (mentions stepMarker) = [] := by
    rw [List.filter_eq_nil_iff]
    simpa using silent
  rw [stepLines, List.filter_append, nothing, List.append_nil]
  rfl

/-- A text whose first line tells that hyacc gave up. -/
def GivesUp (characters : List Char) : Prop :=
  fatalMarker.toList <:+: characters.takeWhile (· ≠ '\n')

/-- Hyacc is refused with the first line and the steps if it gave up. -/
theorem verdict_of_givesUp (givesUp : GivesUp out.toList) :
    verdict ⟨code, out, err⟩ =
      ⟨false, joinLines ((Text.lines out.toList).headD [] ::
        stepLines (Text.lines out.toList))⟩ := by
  rw [GivesUp, ← Text.lines_head] at givesUp
  rw [verdict]
  exact if_pos (mentions_eq_true_iff.2 givesUp)

example :
    verdict ⟨3, "laneHeadList is NULL\nMax K in LR(k): 2", "err"⟩ =
      ⟨false, "laneHeadList is NULL"⟩ := by
  decide +kernel

/-- Otherwise the last line that names the number decides. -/
theorem verdict_of_not_givesUp (goesOn : ¬ GivesUp out.toList) :
    verdict ⟨code, out, err⟩ =
      match foundLine? (Text.lines out.toList) with
      | some last => ⟨true, joinLines (stepLines (Text.lines out.toList) ++ [last])⟩
      | none =>
          ⟨false, s!"exit code: {code}\n" ++ joinLines (stepLines (Text.lines out.toList)) ++
            "\nerr: " ++ err⟩ := by
  rw [GivesUp, ← Text.lines_head] at goesOn
  rw [verdict]
  exact if_neg fun fatal => goesOn (mentions_eq_true_iff.1 fatal)

/-- Hyacc is accepted if it names the number and did not give up. -/
theorem verdict_accepted_iff :
    (verdict ⟨code, out, err⟩).accepted = true ↔
      foundMarker.toList <:+: out.toList ∧ ¬ GivesUp out.toList := by
  by_cases givesUp : GivesUp out.toList
  · simp [verdict_of_givesUp givesUp, givesUp]
  · rw [verdict_of_not_givesUp givesUp, ← foundLine?_isSome]
    cases foundLine? (Text.lines out.toList) <;> simp [givesUp]

/-- An accepted text has a last line that names the number. -/
theorem exists_of_accepted
    (accepted : (verdict ⟨code, out, err⟩).accepted = true) :
    ¬ GivesUp out.toList ∧ ∃ last, foundLine? (Text.lines out.toList) = some last := by
  obtain ⟨named, goesOn⟩ := verdict_accepted_iff.1 accepted
  exact ⟨goesOn, Option.isSome_iff_exists.1 ((foundLine?_isSome _).2 named)⟩

/-- Only where hyacc neither gave up nor was accepted do the exit code and the errors matter. -/
theorem verdict_eq_of_decided
    (decided : (verdict ⟨code, out, err⟩).accepted = true ∨ GivesUp out.toList)
    (otherCode : Int)
    (otherErr : String) :
    verdict ⟨otherCode, out, otherErr⟩ = verdict ⟨code, out, err⟩ := by
  rcases decided with accepted | givesUp
  · obtain ⟨goesOn, last, found⟩ := exists_of_accepted accepted
    rw [verdict_of_not_givesUp goesOn, verdict_of_not_givesUp goesOn, found]
  · rw [verdict_of_givesUp givesUp, verdict_of_givesUp givesUp]

/-- What is told of an accepted text: the steps, and the last line that names the number. -/
theorem lines_diagnostic_of_accepted
    (accepted : (verdict ⟨code, out, err⟩).accepted = true) :
    ∃ before last after,
      Text.lines out.toList = before ++ last :: after ∧
        foundMarker.toList <:+: last ∧
        (∀ line ∈ after, ¬ foundMarker.toList <:+: line) ∧
        Text.lines (verdict ⟨code, out, err⟩).diagnostic.toList =
          (Text.lines out.toList).filter (stepMarker.toList <:+: ·) ++ [last] := by
  obtain ⟨goesOn, last, found⟩ := exists_of_accepted accepted
  obtain ⟨named, before, after, split, silent⟩ := exists_of_foundLine? found
  refine ⟨before, last, after, split, named, silent, ?_⟩
  have isLine : last ∈ Text.lines out.toList := by
    rw [split]
    exact List.mem_append_right _ List.mem_cons_self
  have steps : stepLines (Text.lines out.toList) =
      (Text.lines out.toList).filter (stepMarker.toList <:+: ·) := by
    refine List.filter_congr fun line _ => ?_
    rw [Bool.eq_iff_iff, mentions_eq_true_iff, decide_eq_true_iff]
  rw [verdict_of_not_givesUp goesOn, found, ← steps]
  refine lines_joinLines (fun line member => ?_) (List.append_ne_nil_of_right_ne_nil _ (by simp))
  rcases List.mem_append.1 member with isStep | isLast
  · exact Text.notMem_of_mem_lines (List.mem_of_mem_filter isStep)
  · rw [List.mem_singleton.1 isLast]
    exact Text.notMem_of_mem_lines isLine

/-- Further lines that tell of no step and name no number change nothing. -/
theorem verdict_append
    {extra : String}
    (silent : ∀ line ∈ Text.lines extra.toList,
      ¬ stepMarker.toList <:+: line ∧ ¬ foundMarker.toList <:+: line) :
    verdict ⟨code, out ++ "\n" ++ extra, err⟩ = verdict ⟨code, out, err⟩ := by
  have split : (out ++ "\n" ++ extra).toList = out.toList ++ '\n' :: extra.toList := by
    simp
  have lines : Text.lines (out ++ "\n" ++ extra).toList =
      Text.lines out.toList ++ Text.lines extra.toList := by
    rw [split, Text.lines_append_cons]
  have steps := stepLines_append (Text.lines out.toList) fun line member =>
    (silent line member).1
  have found := foundLine?_append (Text.lines out.toList) fun line member =>
    (silent line member).2
  have first : (Text.lines (out ++ "\n" ++ extra).toList).headD [] =
      (Text.lines out.toList).headD [] := by
    obtain ⟨line, others, shape⟩ := Text.exists_splitOn ['\n'] out.toList
    rw [lines, Text.lines, shape]
    rfl
  have same : GivesUp (out ++ "\n" ++ extra).toList ↔ GivesUp out.toList := by
    rw [GivesUp, GivesUp, ← Text.lines_head, ← Text.lines_head, first]
  by_cases givesUp : GivesUp out.toList
  · rw [verdict_of_givesUp givesUp, verdict_of_givesUp (same.2 givesUp), first, lines, steps]
  · rw [verdict_of_not_givesUp givesUp, verdict_of_not_givesUp fun up => givesUp (same.1 up),
      lines, steps, found]

/--
Whatever hyacc leaves is judged by the marker lines of its output. It is accepted if the number
is named anywhere and the first line does not tell that hyacc gave up. If it is accepted or gave
up, neither the exit code nor the errors matter. If it is accepted, the answer consists of the
lines that tell of a step, in their order and as often as they stand there, and of the last line
that names the number. Further lines that tell of no step and name no number change nothing.
-/
theorem verdict_reads_marker_lines (code : Int) (out err : String) :
    ((verdict ⟨code, out, err⟩).accepted = true ↔
        foundMarker.toList <:+: out.toList ∧
          ¬ fatalMarker.toList <:+: out.toList.takeWhile (· ≠ '\n')) ∧
      ((verdict ⟨code, out, err⟩).accepted = true ∨
          fatalMarker.toList <:+: out.toList.takeWhile (· ≠ '\n') →
        ∀ otherCode otherErr,
          verdict ⟨otherCode, out, otherErr⟩ = verdict ⟨code, out, err⟩) ∧
      ((verdict ⟨code, out, err⟩).accepted = true →
        ∃ before last after,
          Text.lines out.toList = before ++ last :: after ∧
            foundMarker.toList <:+: last ∧
            (∀ line ∈ after, ¬ foundMarker.toList <:+: line) ∧
            Text.lines (verdict ⟨code, out, err⟩).diagnostic.toList =
              (Text.lines out.toList).filter (stepMarker.toList <:+: ·) ++ [last]) ∧
      (∀ extra : String,
        (∀ line ∈ Text.lines extra.toList,
          ¬ stepMarker.toList <:+: line ∧ ¬ foundMarker.toList <:+: line) →
        verdict ⟨code, out ++ "\n" ++ extra, err⟩ = verdict ⟨code, out, err⟩) :=
  ⟨verdict_accepted_iff, verdict_eq_of_decided, lines_diagnostic_of_accepted,
    fun _ silent => verdict_append silent⟩

/-- Two steps and a number are accepted, and told line by line. -/
theorem verdict_of_two_steps :
    let out := "while loop: k = 1\nwhile loop: k = 2\nMax K in LR(k): 2"
    (verdict ⟨1, out, ""⟩).accepted = true ∧
      verdict ⟨0, out, "killed"⟩ = verdict ⟨1, out, ""⟩ ∧
      (∃ before last after,
        Text.lines out.toList = before ++ last :: after ∧
          foundMarker.toList <:+: last ∧
          (∀ line ∈ after, ¬ foundMarker.toList <:+: line) ∧
          Text.lines (verdict ⟨1, out, ""⟩).diagnostic.toList =
            (Text.lines out.toList).filter (stepMarker.toList <:+: ·) ++ [last]) ∧
      verdict ⟨1, out ++ "\n" ++ "done\n", ""⟩ = verdict ⟨1, out, ""⟩ := by
  intro out
  obtain ⟨acceptance, independence, shown, appended⟩ := verdict_reads_marker_lines 1 out ""
  have accepted : (verdict ⟨1, out, ""⟩).accepted = true :=
    acceptance.2 ⟨by decide +kernel, by decide +kernel⟩
  exact ⟨accepted, independence (.inl accepted) 0 "killed", shown accepted,
    appended "done\n" (by decide +kernel)⟩

end Hyacc

end GrammarCorpus
