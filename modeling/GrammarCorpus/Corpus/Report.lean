import GrammarCorpus.Console
import GrammarCorpus.Corpus.Partition

namespace GrammarCorpus

/-!
# Report on a corpus run

One line or one table row for each partition, in the order of the run.
-/

namespace Partition

/-- The columns of a table of partitions. -/
def columns : List Column :=
  ["Size", "Trials", "Generated", "LR(1)", "LR(k)", "Disputed"].map fun header => ⟨header, true⟩

/-- The table of all partitions. -/
def table (partitions : List Partition) : Table where
  title := "Grammar corpus"
  columns := columns
  rows := partitions.map fun partition =>
    [toString partition.size, toString partition.trials, toString partition.total,
      partition.share .lr1, partition.share .lrK,
      toString (partition.members .disputed).length]

/-- The report on all partitions, in lines or as a table. -/
def report (console : Console) (partitions : List Partition) (plain : Bool) : Report :=
  if plain then
    .ofText (String.join (partitions.map fun partition => partition.summary ++ "\n"))
  else
    .withTable console "" (table partitions)

end Partition

end GrammarCorpus
