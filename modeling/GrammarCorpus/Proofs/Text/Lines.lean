import GrammarCorpus.Proofs.Text.Splitting

namespace GrammarCorpus

/-!
# Lines

A line ends at every line feed and nowhere else. So a text is its first line alone, or its
first line, a line feed and a further text, and what holds of lines goes by induction along
that. In particular a piece without a line feed stands in a text exactly when it stands in one
of its lines.
-/

namespace Text

variable {piece front rest characters line : List Char}

/-- What lacks a mark does not reach over it. -/
theorem infix_append_cons_iff
    {mark : Char}
    (absent : mark ∉ piece) :
    piece <:+: front ++ mark :: rest ↔ piece <:+: front ∨ piece <:+: rest := by
  induction front with
  | nil =>
      have atMark : piece <+: [] ++ mark :: rest ↔ piece <+: [] := prefix_append_cons_iff absent
      rw [List.nil_append] at atMark
      rw [List.nil_append, List.infix_cons_iff, atMark, List.prefix_nil, List.infix_nil]
  | cons character others inductionHypothesis =>
      rw [List.cons_append, List.infix_cons_iff, inductionHypothesis, List.infix_cons_iff,
        ← List.cons_append, prefix_append_cons_iff absent, or_assoc]

/-- What holds of every single line, and of a line in front of a text of which it holds. -/
@[elab_as_elim]
theorem line_induction
    {property : List Char → Prop}
    (characters : List Char)
    (last : ∀ line, '\n' ∉ line → property line)
    (next : ∀ line rest, '\n' ∉ line → property rest → property (line ++ '\n' :: rest)) :
    property characters := by
  by_cases present : '\n' ∈ characters
  · obtain ⟨line, rest, split, absent⟩ := List.eq_append_cons_of_mem present
    have shorter : rest.length < characters.length := by
      rw [split, List.length_append, List.length_cons]
      omega
    rw [split]
    exact next line rest absent (line_induction rest last next)
  · exact last characters present
termination_by characters.length

/-- A text without a line feed is one line. -/
theorem lines_of_notMem (absent : '\n' ∉ characters) : lines characters = [characters] :=
  splitOn_eq_singleton List.mem_cons_self absent

/-- The first line ends at the first line feed. -/
theorem lines_of_first (absent : '\n' ∉ front) :
    lines (front ++ '\n' :: rest) = front :: lines rest := by
  refine splitOn_append (List.cons_ne_nil _ _) ?_
  rw [List.dropLast_singleton, List.append_nil]
  exact fun found => absent (found.subset List.mem_cons_self)

/-- What stands behind a line feed are further lines. -/
theorem lines_append_cons (front rest : List Char) :
    lines (front ++ '\n' :: rest) = lines front ++ lines rest :=
  splitOn_append_cons

/-- There is no line feed in a line. -/
theorem notMem_of_mem_lines (member : line ∈ lines characters) : '\n' ∉ line :=
  notMem_of_mem_splitOn member

/-- A piece without a line feed stands in a text where it stands in one of its lines. -/
theorem infix_iff_exists_line (absent : '\n' ∉ piece) :
    piece <:+: characters ↔ ∃ line ∈ lines characters, piece <:+: line := by
  induction characters using line_induction with
  | last line single => simp [lines_of_notMem single]
  | next line rest single inductionHypothesis =>
      simp [lines_of_first single, infix_append_cons_iff absent, inductionHypothesis]

/-- The first line is what stands in front of the first line feed. -/
theorem lines_head (characters : List Char) :
    (lines characters).headD [] = characters.takeWhile (· ≠ '\n') := by
  induction characters using line_induction with
  | last line absent =>
      rw [lines_of_notMem absent, List.headD_cons, eq_comm, ← List.append_nil line,
        List.takeWhile_append_of_pos fun character member => by
          simpa using fun equal : character = '\n' => absent (equal ▸ member)]
      rfl
  | next line rest absent inductionHypothesis =>
      rw [lines_of_first absent, List.headD_cons,
        List.takeWhile_append_of_pos fun character member => by
          simpa using fun equal : character = '\n' => absent (equal ▸ member)]
      simp

/-- Texts without a line feed are the lines of what they are joined to. -/
theorem lines_intercalate
    {texts : List (List Char)}
    (single : ∀ text ∈ texts, '\n' ∉ text)
    (nonempty : texts ≠ []) :
    lines (['\n'].intercalate texts) = texts := by
  induction texts with
  | nil => exact absurd rfl nonempty
  | cons text others inductionHypothesis =>
      have absent := single text List.mem_cons_self
      cases others with
      | nil => rw [List.intercalate_singleton, lines_of_notMem absent]
      | cons other others =>
          rw [List.intercalate_cons_cons, List.append_assoc, List.singleton_append,
            lines_of_first absent,
            inductionHypothesis (fun text member => single text (List.mem_cons_of_mem _ member))
              (List.cons_ne_nil _ _)]

end Text

end GrammarCorpus
