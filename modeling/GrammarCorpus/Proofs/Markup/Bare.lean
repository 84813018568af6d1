import GrammarCorpus.Markup.Page

namespace GrammarCorpus

/-!
# Text without styles

A text without a bracket has no tags, so no part of it has a style. Breaking it into the lines of
a column and making these fit gives no glyph a style that none had before. So a sheet of such
texts is in want of no style, and the page prints tables without brackets, as it is relied on.
-/

namespace Markup

namespace Glyph

variable {line : List Glyph}

/-- No glyph has a style. -/
def IsBare (line : List Glyph) : Prop :=
  ∀ glyph ∈ line, glyph.styles = []

/-- Other characters do not bring styles with them. -/
theorem withCharacters_isBare
    (bare : IsBare line)
    (shown : List Char) :
    IsBare (withCharacters line shown) := by
  induction line generalizing shown with
  | nil => exact nofun
  | cons glyph rest inductionHypothesis =>
      obtain ⟨first, others⟩ := List.forall_mem_cons.1 bare
      cases shown with
      | nil => exact nofun
      | cons character shown =>
          exact List.forall_mem_cons.2 ⟨first, inductionHypothesis others shown⟩

/-- Neither do several steps of that kind. -/
theorem foldl_withCharacters_isBare
    (bare : IsBare line)
    (steps : List (List Char)) :
    IsBare (steps.foldl withCharacters line) := by
  induction steps generalizing line with
  | nil => exact bare
  | cons shown steps inductionHypothesis =>
      exact inductionHypothesis (withCharacters_isBare bare shown)

/-- The lines of a text have the glyphs of the text. -/
theorem lines_isBare
    (bare : IsBare line)
    {part : List Glyph}
    (member : part ∈ lines line) :
    IsBare part := by
  induction line generalizing part with
  | nil =>
      rw [List.mem_singleton.1 member]
      exact nofun
  | cons glyph rest inductionHypothesis =>
      obtain ⟨first, others⟩ := List.forall_mem_cons.1 bare
      rw [lines] at member
      split at member
      next =>
        rcases List.mem_cons.1 member with rfl | later
        · exact nofun
        · exact inductionHypothesis others later
      next =>
        split at member
        next =>
          rw [List.mem_singleton.1 member]
          exact List.forall_mem_cons.2 ⟨first, nofun⟩
        next front further shape =>
          rw [shape] at inductionHypothesis
          rcases List.mem_cons.1 member with rfl | later
          · exact List.forall_mem_cons.2
              ⟨first, inductionHypothesis others List.mem_cons_self⟩
          · exact inductionHypothesis others (List.mem_cons_of_mem _ later)

/-- The blanks in place of a tab have the styles of the tab. -/
theorem expandTabsFrom_isBare
    (bare : IsBare line)
    (position : Nat) :
    IsBare (expandTabsFrom position line) := by
  induction line generalizing position with
  | nil => exact nofun
  | cons glyph rest inductionHypothesis =>
      obtain ⟨first, others⟩ := List.forall_mem_cons.1 bare
      rw [expandTabsFrom]
      split
      · intro other member
        rcases List.mem_append.1 member with blank | later
        · rw [List.eq_of_mem_replicate blank]
          exact first
        · exact inductionHypothesis others _ other later
      · exact List.forall_mem_cons.2 ⟨first, inductionHypothesis others _⟩

/-- The portions of a line have the glyphs of the line. -/
theorem portions_isBare
    (bare : IsBare line)
    (lengths : List Nat)
    {part : List Glyph}
    (member : part ∈ portions lengths line) :
    IsBare part := by
  induction lengths generalizing line with
  | nil => cases member
  | cons length lengths inductionHypothesis =>
      rcases List.mem_cons.1 member with rfl | later
      · exact fun glyph inside => bare glyph (List.mem_of_mem_take inside)
      · exact inductionHypothesis (fun glyph inside => bare glyph (List.mem_of_mem_drop inside))
          later

end Glyph

namespace Passage

variable {passage : Passage}

/-- No part of a passage has a style, not even an empty one. -/
structure IsBare (passage : Passage) : Prop where
  glyphs : Glyph.IsBare passage.glyphs
  points : passage.points = []

/-- A text without styles. -/
theorem plain_isBare (text : String) : (plain text).IsBare where
  glyphs glyph member := by
    obtain ⟨character, -, rfl⟩ := List.mem_map.1 member
    rfl
  points := rfl

/-- A passage that is bare is so in every line of a column, and has no styles there. -/
theorem IsBare.styles_eq_nil
    (bare : passage.IsBare)
    (width : Nat)
    (flushRight : Bool) :
    passage.styles width flushRight = [] := by
  have noPoints : passage.pointsLeft width flushRight = [] := by
    simp only [pointsLeft, bare.points, List.filter_nil, List.map_nil, ite_self]
  have noLines : (passage.lines width flushRight).flatMap
      (fun line => line.flatMap Glyph.styles) = [] := by
    refine List.flatMap_eq_nil_iff.2 fun line member => ?_
    obtain ⟨broken, isBroken, rfl⟩ := List.mem_map.1 member
    obtain ⟨part, isPart, inside⟩ := List.mem_flatMap.1 isBroken
    have partIsBare := Glyph.lines_isBare bare.glyphs isPart
    have brokenIsBare :=
      Glyph.portions_isBare (Glyph.expandTabsFrom_isBare partIsBare 0) _ inside
    exact List.flatMap_eq_nil_iff.2 (Glyph.foldl_withCharacters_isBare brokenIsBare _)
  rw [styles, noPoints, noLines]
  rfl

end Passage

/-- What a text without brackets says has no styles. -/
theorem read_of_notMem
    {text : String}
    (noTag : '[' ∉ text.toList) :
    ∃ passage : Passage, read text = .ok passage ∧ passage.IsBare := by
  have one : pieces text.toList = [.text text.toList] :=
    piecesFrom_eq_singleton [] 0 noTag List.not_mem_nil
  refine ⟨.plain (String.ofList (shown text.toList)), ?_, Passage.plain_isBare _⟩
  rw [read, one, ← Passage.ofSpans_nil, String.toList_ofList]
  rfl

/-- A sheet of texts without styles is in want of none. -/
theorem Sheet.styles_eq_nil
    {sheet : Sheet}
    (bare : ∀ row ∈ sheet.rows, ∀ passage ∈ row, passage.IsBare) :
    sheet.styles = [] := by
  refine List.flatMap_eq_nil_iff.2 fun row isRow => ?_
  refine List.flatMap_eq_nil_iff.2 fun ⟨⟨width, column⟩, passage⟩ member => ?_
  exact (bare row isRow passage (List.of_mem_zip member).2).styles_eq_nil _ _

/-- Steps that all succeed do so one after the other, and keep what each of them gives. -/
theorem exists_of_mapM
    {α β ε : Type}
    {given : β → Prop}
    {step : α → Except ε β}
    {items : List α}
    (each : ∀ item ∈ items, ∃ value, step item = .ok value ∧ given value) :
    ∃ values, items.mapM step = .ok values ∧ ∀ value ∈ values, given value := by
  induction items with
  | nil => exact ⟨[], rfl, nofun⟩
  | cons item others inductionHypothesis =>
      obtain ⟨first, rest⟩ := List.forall_mem_cons.1 each
      obtain ⟨value, succeeds, isGiven⟩ := first
      obtain ⟨values, succeed, areGiven⟩ := inductionHypothesis rest
      refine ⟨value :: values, ?_, List.forall_mem_cons.2 ⟨isGiven, areGiven⟩⟩
      rw [List.mapM_cons, succeeds, succeed]
      rfl

/-- All texts of a table without brackets can be read, and their styles too: there are none. -/
theorem exists_sheetOf
    {table : Table}
    (untagged : table.IsUntagged) :
    ∃ sheet, sheetOf table = .ok sheet := by
  obtain ⟨rows, succeeds, bare⟩ := exists_of_mapM fun row isRow =>
    exists_of_mapM fun text member => read_of_notMem (untagged.cells row isRow text member)
  unfold sheetOf
  rw [succeeds]
  simp only [bind, Except.bind]
  rw [Sheet.styles_eq_nil bare]
  exact ⟨_, rfl⟩

end Markup

/-- The page prints tables without brackets. -/
theorem Console.page_printsUntagged : Console.page.PrintsUntagged := by
  intro table untagged
  obtain ⟨sheet, isSheet⟩ := Markup.exists_sheetOf untagged
  refine ⟨sheet.text, ?_⟩
  unfold page
  dsimp only
  rw [isSheet]

end GrammarCorpus
