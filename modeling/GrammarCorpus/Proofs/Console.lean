import GrammarCorpus.Corpus.Report
import GrammarCorpus.Proofs.Files.PathText
import GrammarCorpus.Sample

namespace GrammarCorpus

/-!
# Tables without brackets

Headers, titles and numbers have no brackets. So a console that prints tables without brackets
prints the table of a corpus run whatever its numbers are, and the table of a sample whose names
have none.
-/

/-- A bracket of two joined texts is in one of them. -/
theorem notMem_append
    {left right : String}
    (inLeft : '[' ∉ left.toList)
    (inRight : '[' ∉ right.toList) :
    '[' ∉ (left ++ right).toList := by
  rw [String.toList_append, List.mem_append, not_or]
  exact ⟨inLeft, inRight⟩

/-- The text of an integer has no bracket. -/
theorem notMem_toString (value : Int) : '[' ∉ (toString value).toList := by
  intro member
  rcases Path.isDigit_of_mem_toString member with isSign | isDigit
  · exact absurd isSign (by decide)
  · exact absurd isDigit (by decide)

/-- Neither has the text of a number of things. -/
theorem notMem_toString_nat (count : Nat) : '[' ∉ (toString count).toList :=
  notMem_toString count

/-- A report that ends with a table without brackets is complete. -/
theorem Report.withTable_complete
    {console : Console}
    {table : Table}
    (prints : console.PrintsUntagged)
    (untagged : table.IsUntagged)
    (text : String) :
    ∃ printed, withTable console text table = ofText (text ++ printed) := by
  obtain ⟨printed, isPrinted⟩ := prints table untagged
  exact ⟨printed, by rw [withTable, isPrinted]; rfl⟩

namespace Partition

/-- The share of a class has no bracket. -/
theorem notMem_share (partition : Partition) (corpusClass : CorpusClass) :
    '[' ∉ (partition.share corpusClass).toList :=
  notMem_append (notMem_append (notMem_toString_nat _) (by decide)) (notMem_toString_nat _)

/-- The table of a corpus run has no brackets. -/
theorem table_isUntagged (partitions : List Partition) : (table partitions).IsUntagged where
  title := by
    have fixed : '[' ∉ "Grammar corpus".toList := by decide
    exact fixed
  headers := by
    have fixed : ∀ column ∈ columns, '[' ∉ column.header.toList := by decide
    exact fixed
  cells := by
    intro row member
    obtain ⟨partition, -, rfl⟩ := List.mem_map.1 member
    simp only [List.forall_mem_cons, List.not_mem_nil, false_imp_iff, implies_true, and_true]
    exact ⟨notMem_toString _, notMem_toString _, notMem_toString_nat _, notMem_share _ _,
      notMem_share _ _, notMem_toString_nat _⟩

/-- The report on a corpus run is complete. -/
theorem report_complete
    {console : Console}
    (prints : console.PrintsUntagged)
    (partitions : List Partition)
    (plain : Bool) :
    ∃ text, report console partitions plain = .ofText text := by
  cases plain with
  | true => exact ⟨_, rfl⟩
  | false =>
      obtain ⟨printed, isPrinted⟩ :=
        Report.withTable_complete prints (table_isUntagged partitions) ""
      exact ⟨_, isPrinted⟩

end Partition

namespace Sample

/-- The title of a table of grammars has no bracket. -/
theorem notMem_title (sample : Sample) (size : Int) :
    '[' ∉ (sample.table size).title.toList := by
  have shape : (sample.table size).title =
      "Grammars (size=" ++ toString size ++ ", n=" ++ toString sample.grammars.length ++
        ", attempts=" ++ toString sample.attempts ++ ")" := rfl
  have sizes : '[' ∉ ("Grammars (size=" ++ toString size).toList :=
    notMem_append (by decide) (notMem_toString size)
  have counts : '[' ∉ ("Grammars (size=" ++ toString size ++ ", n=" ++
      toString sample.grammars.length).toList :=
    notMem_append (notMem_append sizes (by decide)) (notMem_toString_nat _)
  rw [shape]
  exact notMem_append (notMem_append (notMem_append counts (by decide)) (notMem_toString_nat _))
    (by decide)

/-- The table of grammars whose root rules have no brackets has none. -/
theorem table_isUntagged
    {sample : Sample}
    (untagged : ∀ grammar ∈ sample.grammars, '[' ∉ (rootText grammar).toList)
    (size : Int) :
    (sample.table size).IsUntagged where
  title := sample.notMem_title size
  headers := by
    have fixed : ∀ column ∈ columns, '[' ∉ column.header.toList := by decide
    exact fixed
  cells := by
    intro row member
    obtain ⟨grammar, isShown, rfl⟩ := List.mem_map.1 member
    refine List.forall_mem_cons.2 ⟨untagged grammar isShown, fun text isCount => ?_⟩
    obtain ⟨count, -, rfl⟩ := List.mem_map.1 isCount
    exact notMem_toString_nat count

end Sample

end GrammarCorpus
