import GrammarCorpus.Oracle.Verdict

namespace GrammarCorpus

/-!
# Partitions of classified grammars

Three verdicts put a grammar into classes: LR(1) if both engines for LR(1) accept
it, LR(k) if only a greater number of lookahead tokens helps, and disputed if the
verdicts cannot all be right. The first two classes exclude each other; a disputed
grammar may be in one of them as well, and some grammars are in no class.
-/

/-- A grammar of a corpus run, with the verdicts about it. -/
structure Classified where
  trial : Int
  size : Int
  /-- The canonical rendering. -/
  text : String
  /-- The file that each engine was given. -/
  paths : PerRole String
  verdicts : PerRole Verdict
deriving DecidableEq, Repr

namespace Classified

/-- Whether the engine of a role accepted the grammar. -/
def accepted (classified : Classified) (role : Role) : Bool :=
  (classified.verdicts.get role).accepted

/-- Both engines for LR(1) accept. -/
def isLr1 (classified : Classified) : Bool :=
  classified.accepted .strict && classified.accepted .reference

/-- Only the engine for LR(k) accepts, as far as the strict engine is concerned. -/
def isLrK (classified : Classified) : Bool :=
  classified.accepted .relaxed && !classified.accepted .strict

/-- The engines for LR(1) disagree, or LR(k) is denied to an LR(1) grammar. -/
def isDisputed (classified : Classified) : Bool :=
  classified.accepted .strict != classified.accepted .reference ||
    (classified.accepted .strict && !classified.accepted .relaxed)

end Classified

/-- The classes of a corpus. -/
inductive CorpusClass where
  | lr1
  | lrK
  | disputed
deriving DecidableEq, Repr

namespace CorpusClass

/-- The name of a class, which is also that of its directory. -/
def text : CorpusClass → String
  | lr1 => "lr1"
  | lrK => "lr_k"
  | disputed => "disputed"

/-- All classes, in the order of reports. -/
def all : List CorpusClass :=
  [lr1, lrK, disputed]

/-- Whether a grammar belongs to a class. -/
def holds : CorpusClass → Classified → Bool
  | lr1 => Classified.isLr1
  | lrK => Classified.isLrK
  | disputed => Classified.isDisputed

end CorpusClass

/-- The classified grammars of one size, class by class. -/
structure Partition where
  size : Int
  /-- The number of trials that were made. -/
  trials : Int
  /-- The number of trials that produced a grammar. -/
  total : Nat
  lr1 : List Classified
  lrK : List Classified
  disputed : List Classified
deriving DecidableEq, Repr

namespace Partition

/-- Sorts the grammars of so many trials into classes; the order is kept in each. -/
def ofResults (size trials : Int) (results : List Classified) : Partition where
  size := size
  trials := trials
  total := results.length
  lr1 := results.filter Classified.isLr1
  lrK := results.filter Classified.isLrK
  disputed := results.filter Classified.isDisputed

/-- The grammars of a class. -/
def members (partition : Partition) : CorpusClass → List Classified
  | .lr1 => partition.lr1
  | .lrK => partition.lrK
  | .disputed => partition.disputed

/-- The members of a class are the results that it holds. -/
@[simp] theorem members_ofResults
    (size trials : Int)
    (results : List Classified)
    (corpusClass : CorpusClass) :
    (ofResults size trials results).members corpusClass =
      results.filter corpusClass.holds := by
  cases corpusClass <;> rfl

/-- The share of a class: its grammars and all grammars. -/
def share (partition : Partition) (corpusClass : CorpusClass) : String :=
  s!"{(partition.members corpusClass).length}/{partition.total}"

/-- One line about a partition. -/
def summary (partition : Partition) : String :=
  s!"[size {partition.size}] LR(1): {partition.share .lr1} | LR(k): " ++
    s!"{partition.share .lrK} | disputed: {partition.share .disputed} | " ++
    s!"generated: {partition.total}/{partition.trials}"

end Partition

end GrammarCorpus
