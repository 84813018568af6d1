import GrammarCorpus.Corpus.Pool
import GrammarCorpus.Corpus.Scratch
import GrammarCorpus.Corpus.Store

namespace GrammarCorpus

/-!
# Corpus runs

A batch makes the trials of one size, puts their results in trial order, and stores
the partition. A run makes one batch for each size in a range. Messages on the error
stream tell how far a batch has come and, at its end, what it has found.

With one worker the trials are made one after the other. With several, the workers
of a pool share them.
-/

/-- What makes a trial in a scratch directory. -/
abbrev Attempt :=
  Path → Int → Job (Option Classified)

namespace Batch

/-- Tells how many trials have come to their end, now and then. -/
def progress (trials done : Int) : Work Unit := do
  if done % 100 = 0 || done = trials then
    Work.say s!"\r[{done}/{trials} trials]"

/-- Makes the trials in order and adds their results to those there are. -/
def sequentially
    (attempt : Attempt)
    (trials : Int)
    (scratch : Path) :
    List Int → List Classified → Job (List Classified)
  | [], results => return results
  | trial :: later, results => do
      let found ← attempt scratch trial
      ExceptT.lift (progress trials (trial + 1))
      sequentially attempt trials scratch later (results ++ found.toList)

/-- Shares the trials among workers and puts the results in order. -/
def concurrently
    (attempt : Attempt)
    (size trials : Int)
    (scratch : Path)
    (workers : Int) :
    Job (List Classified) := do
  ExceptT.lift (Work.say
    s!"[Starting {workers}-process classification of {trials} size-{size} grammars]\n")
  let ending ← ExceptT.lift
    (Pool.run Failure.isInterrupt Work.nextTurn
      (fun trial => (attempt scratch trial).run)
      (progress trials)
      (Pool.start trials workers)
      Harvest.empty)
  match ending with
  | .ok harvest => return harvest.sorted
  | .error failure => throw failure

/--
Makes the trials of one size in a scratch directory below the given one, and stores
their partition.
-/
def runWith
    (attempt : Attempt)
    (scratchRoot : Option String)
    (size trials : Int)
    (output : Path)
    (workers : Int) :
    Job Partition := do
  let partition ← Scratch.within Failure.blaming scratchRoot fun scratch => do
    let results ←
      if 1 < workers then
        concurrently attempt size trials scratch workers
      else
        sequentially attempt trials scratch (stride 0 trials 1) []
    let partition := Partition.ofResults size trials results
    let _ ← Store.persist partition output
    return partition
  ExceptT.lift (Work.say ("\n" ++ partition.summary ++ "\n"))
  return partition

/-- Makes the trials of one size with a configuration, and stores their partition. -/
def run (config : Config) (size trials : Int) (output : Path) (workers : Int) :
    Job Partition :=
  runWith (Trial.run config size) config.scratchRoot size trials output workers

end Batch

namespace Corpus

/-- Makes batches of some sizes and adds their partitions to those there are. -/
def batches (batch : Int → Job Partition) : List Int → List Partition → Job (List Partition)
  | [], partitions => return partitions
  | size :: later, partitions => do
      let partition ← batch size
      batches batch later (partitions ++ [partition])

/-- Makes one batch for each size from the first up to, but without, the last. -/
def generate (config : Config) (first last trials : Int) (output : Path) (workers : Int) :
    Job (List Partition) :=
  batches (fun size => Batch.run config size trials output workers) (stride first last 1) []

end Corpus

end GrammarCorpus
