import GrammarCorpus.Proofs.Oracle.MarkerLines
import GrammarCorpus.Proofs.Text.AnyCase

namespace GrammarCorpus

/-!
# The markers that are present

Nimbleparse is judged by which markers its two streams hold, in any case. The streams are read
as one text with a line feed in between, but no marker holds a line feed, so no marker comes
about by joining them. What is judged is then the same for both streams and for every place in
them, and text that is added takes no marker away.
-/

namespace Grmtools

variable {marker : String} {code : Int} {out err : String}

/-- A marker stands in a text in any case. -/
abbrev Holds (text marker : String) : Prop :=
  Text.OccursInAnyCase marker.toList text.toList

/-- The markers that refuse a grammar. -/
abbrev refusingMarkers : List String :=
  conflictMarkers ++ grammarMarkers

/-- No marker holds a line feed, and each can be traced back from lower case. -/
theorem marker_isTraceable :
    ∀ marker ∈ inputMarker :: refusingMarkers,
      Text.IsTraceable marker.toList ∧ '\n' ∉ marker.toList := by
  decide

/-- A marker is found where it stands in any case. -/
theorem mentionsLowered_iff
    (isMarker : marker ∈ inputMarker :: refusingMarkers)
    (text : String) :
    mentionsLowered marker text = true ↔ Holds text marker := by
  rw [Holds, Text.occursInAnyCase_iff (marker_isTraceable marker isMarker).1, mentionsLowered,
    mentions_eq_true_iff]

/-- A marker is found in the joined streams where it stands in one of them. -/
theorem mentionsLowered_report_iff
    (isMarker : marker ∈ inputMarker :: refusingMarkers)
    (out err : String) :
    mentionsLowered marker (out ++ "\n" ++ err) = true ↔ Holds out marker ∨ Holds err marker := by
  have lineFeed : lowered '\n' = ['\n'] := by decide
  have split : (out ++ "\n" ++ err).toList.flatMap lowered =
      out.toList.flatMap lowered ++ '\n' :: err.toList.flatMap lowered := by
    simp [lineFeed]
  rw [← mentionsLowered_iff isMarker, ← mentionsLowered_iff isMarker, mentionsLowered, split]
  simp only [mentionsLowered, mentions_eq_true_iff]
  exact Text.infix_append_cons_iff (marker_isTraceable marker isMarker).2

/-- What refuses a grammar whatever the exit code is. -/
def Complains (out err : String) : Prop :=
  ∃ marker ∈ refusingMarkers, Holds out marker ∨ Holds err marker

/-- Nimbleparse is accepted if no marker refuses and only the empty input may be at fault. -/
theorem verdict_accepted_iff :
    (verdict ⟨code, out, err⟩).accepted = true ↔
      ¬ Complains out err ∧ (code = 0 ∨ Holds out inputMarker ∨ Holds err inputMarker) := by
  have refused : refusingMarkers.any (mentionsLowered · (out ++ "\n" ++ err)) = true ↔
      Complains out err := by
    rw [List.any_eq_true, Complains]
    exact exists_congr fun marker => and_congr_right fun member =>
      mentionsLowered_report_iff (List.mem_cons_of_mem _ member) out err
  have excused := mentionsLowered_report_iff (List.mem_cons_self (l := refusingMarkers)) out err
  rw [← refused, ← excused, verdict]
  dsimp only
  split
  next complains => simp [complains]
  next silent =>
    by_cases clean : code = 0
    · simp [clean, silent]
    · cases found : mentionsLowered inputMarker (out ++ "\n" ++ err) <;> simp [clean, silent]

/-- Nothing refuses where neither stream holds a refusing marker. -/
theorem not_complains_iff :
    ¬ Complains out err ↔
      ∀ marker ∈ refusingMarkers, ¬ Holds out marker ∧ ¬ Holds err marker := by
  simp only [Complains, not_exists, not_and, not_or]

/-- Acceptance is settled by what it depends on. -/
theorem accepted_congr
    {otherCode : Int}
    {otherOut otherErr : String}
    (complains : Complains otherOut otherErr ↔ Complains out err)
    (excused : otherCode = 0 ∨ Holds otherOut inputMarker ∨ Holds otherErr inputMarker ↔
      code = 0 ∨ Holds out inputMarker ∨ Holds err inputMarker) :
    (verdict ⟨otherCode, otherOut, otherErr⟩).accepted = (verdict ⟨code, out, err⟩).accepted := by
  rw [Bool.eq_iff_iff, verdict_accepted_iff, verdict_accepted_iff, complains, excused]

/-- Which stream holds a marker does not matter. -/
theorem accepted_swap :
    (verdict ⟨code, err, out⟩).accepted = (verdict ⟨code, out, err⟩).accepted :=
  accepted_congr (exists_congr fun _ => and_congr_right fun _ => or_comm)
    (or_congr_right or_comm)

/-- Texts that differ in nothing but the case of ASCII letters hold the same markers. -/
theorem holds_congr
    {one other : String}
    (same : Text.SameButCase one.toList other.toList)
    (isMarker : marker ∈ inputMarker :: refusingMarkers) :
    Holds other marker ↔ Holds one marker := by
  have traceable := (marker_isTraceable marker isMarker).1
  rw [Holds, Holds, Text.occursInAnyCase_iff traceable, Text.occursInAnyCase_iff traceable,
    same.flatMap_lowered]

/-- The case of ASCII letters does not matter. -/
theorem accepted_of_sameButCase
    {otherOut otherErr : String}
    (sameOut : Text.SameButCase out.toList otherOut.toList)
    (sameErr : Text.SameButCase err.toList otherErr.toList) :
    (verdict ⟨code, otherOut, otherErr⟩).accepted = (verdict ⟨code, out, err⟩).accepted := by
  refine accepted_congr ?_ (or_congr_right (or_congr (holds_congr sameOut List.mem_cons_self)
    (holds_congr sameErr List.mem_cons_self)))
  refine exists_congr fun marker => and_congr_right fun member => ?_
  have isMarker := List.mem_cons_of_mem inputMarker member
  exact or_congr (holds_congr sameOut isMarker) (holds_congr sameErr isMarker)

/-- Which exit code tells of a fault does not matter. -/
theorem accepted_of_fault
    {otherCode : Int}
    (fault : code ≠ 0)
    (otherFault : otherCode ≠ 0) :
    (verdict ⟨otherCode, out, err⟩).accepted = (verdict ⟨code, out, err⟩).accepted :=
  accepted_congr Iff.rfl (by rw [or_iff_right fault, or_iff_right otherFault])

/-- A text around another one holds the markers of the other. -/
theorem Holds.around
    {text : String}
    (holds : Holds text marker)
    (before behind : String) :
    Holds (before ++ text ++ behind) marker := by
  obtain ⟨piece, inside, spelled⟩ := holds
  refine ⟨piece, inside.trans ⟨before.toList, behind.toList, ?_⟩, spelled⟩
  simp

/-- Text that is added to either stream does not make up for a complaint. -/
theorem rejected_around
    (isMarker : marker ∈ refusingMarkers)
    (present : Holds out marker ∨ Holds err marker)
    (beforeOut behindOut beforeErr behindErr : String) :
    (verdict ⟨code, beforeOut ++ out ++ behindOut, beforeErr ++ err ++ behindErr⟩).accepted =
      false := by
  rw [← Bool.not_eq_true, verdict_accepted_iff]
  rintro ⟨silent, -⟩
  exact silent ⟨marker, isMarker, present.imp (fun holds => holds.around beforeOut behindOut)
    fun holds => holds.around beforeErr behindErr⟩

/--
Whatever nimbleparse leaves is judged by the markers that its streams hold in any case. It is
accepted if neither stream by itself holds a marker of a conflict or of a fault in the grammar,
and if the exit code is zero or one of the streams tells of a fault in the input. So it does not
matter which stream holds what, nor in which case, nor which exit code other than zero there is;
and text around the streams does not make up for a complaint.
-/
theorem verdict_reads_marker_presence (code : Int) (out err : String) :
    ((verdict ⟨code, out, err⟩).accepted = true ↔
        (∀ marker ∈ conflictMarkers ++ grammarMarkers, ¬ Holds out marker ∧ ¬ Holds err marker) ∧
          (code = 0 ∨ Holds out inputMarker ∨ Holds err inputMarker)) ∧
      (verdict ⟨code, err, out⟩).accepted = (verdict ⟨code, out, err⟩).accepted ∧
      (∀ otherOut otherErr : String,
        Text.SameButCase out.toList otherOut.toList →
        Text.SameButCase err.toList otherErr.toList →
          (verdict ⟨code, otherOut, otherErr⟩).accepted = (verdict ⟨code, out, err⟩).accepted) ∧
      (∀ otherCode, code ≠ 0 → otherCode ≠ 0 →
        (verdict ⟨otherCode, out, err⟩).accepted = (verdict ⟨code, out, err⟩).accepted) ∧
      (∀ marker ∈ conflictMarkers ++ grammarMarkers, Holds out marker ∨ Holds err marker →
        ∀ otherCode beforeOut behindOut beforeErr behindErr,
          (verdict ⟨otherCode, beforeOut ++ out ++ behindOut,
            beforeErr ++ err ++ behindErr⟩).accepted = false) := by
  refine ⟨?_, accepted_swap, fun _ _ => accepted_of_sameButCase, fun _ => accepted_of_fault,
    fun _ isMarker present _ => rejected_around isMarker present⟩
  rw [verdict_accepted_iff, not_complains_iff]

/-- A fault in the input excuses in any case, and an unused symbol refuses in any company. -/
theorem verdict_of_capitals :
    (verdict ⟨1, "Parsing ERROR", "x"⟩).accepted = true ∧
      (verdict ⟨1, "x", "Parsing ERROR"⟩).accepted = true ∧
      (verdict ⟨1, "PARSING error", "X"⟩).accepted = true ∧
      (verdict ⟨2, "Parsing ERROR", "x"⟩).accepted = true ∧
      (verdict ⟨0, "" ++ "Unused" ++ " parsing error", "" ++ "" ++ "ok"⟩).accepted = false := by
  obtain ⟨-, swapped, recased, recoded, -⟩ :=
    verdict_reads_marker_presence 1 "Parsing ERROR" "x"
  obtain ⟨-, -, -, -, refused⟩ := verdict_reads_marker_presence 0 "Unused" ""
  have accepted : (verdict ⟨1, "Parsing ERROR", "x"⟩).accepted = true := by decide +kernel
  have unused : Holds "Unused" "unused" := ⟨"Unused".toList, List.infix_rfl, by decide +kernel⟩
  exact ⟨accepted, swapped.trans accepted,
    (recased "PARSING error" "X" (by decide) (by decide)).trans accepted,
    (recoded 2 (by decide) (by decide)).trans accepted,
    refused "unused" (by decide) (.inl unused) 0 "" " parsing error" "" "ok"⟩

end Grmtools

end GrammarCorpus
