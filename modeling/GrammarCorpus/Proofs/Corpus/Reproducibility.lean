import GrammarCorpus.Proofs.Corpus.Classes
import GrammarCorpus.Proofs.Generation

namespace GrammarCorpus

/-!
# Runs that are repeated

What is told of a trial depends on the seed, the bounds, the alphabets and the name of the
root, on the size and the number of the trial, and on what the engines reply to a text.
Nothing else has a part in it: not the other trials and sizes of a run, not the workers and
their turns, and not where the run works and stores. So two runs that agree in the former
agree on every trial that both of them make.
-/

open Work

/-- Two configurations that agree in everything that grammars are drawn from. -/
structure Config.DrawsLike (first second : Config) : Prop where
  minAlternatives : first.minAlternatives = second.minAlternatives
  maxAlternatives : first.maxAlternatives = second.maxAlternatives
  minSymbols : first.minSymbols = second.minSymbols
  maxSymbols : first.maxSymbols = second.maxSymbols
  rootMinSymbols : first.rootMinSymbols = second.rootMinSymbols
  maxRetries : first.maxRetries = second.maxRetries
  nonterminalAlphabet : first.nonterminalAlphabet = second.nonterminalAlphabet
  terminalAlphabet : first.terminalAlphabet = second.terminalAlphabet
  rootName : first.rootName = second.rootName
  seed : first.seed = second.seed

/-- Two machines whose engines reply to each text in the same way. -/
def Machine.RepliesLike (first second : Machine) : Prop :=
  ∀ role text, (first.engines role text).outcome = (second.engines role text).outcome

section Draws

variable {σ : Type} [RandomSource σ] {first second : Config} {nonterminals terminals : List String}

namespace Generator

/-- Alternatives are drawn in the same way. -/
theorem alternative_congr
    (like : first.DrawsLike second)
    (lhs : String)
    (isRoot : Bool) :
    (alternative ⟨first, nonterminals, terminals⟩ lhs isRoot : Draw σ Alternative) =
      alternative ⟨second, nonterminals, terminals⟩ lhs isRoot := by
  unfold alternative leastSymbols candidates pool
  simp only [like.minSymbols, like.maxSymbols, like.rootMinSymbols]

/-- So are fresh alternatives. -/
theorem freshWithin_congr
    (like : first.DrawsLike second)
    (lhs : String)
    (isRoot sole : Bool)
    (taken : List Alternative)
    (retries : Nat) :
    (freshWithin ⟨first, nonterminals, terminals⟩ lhs isRoot sole taken retries :
        Draw σ Alternative) =
      freshWithin ⟨second, nonterminals, terminals⟩ lhs isRoot sole taken retries := by
  induction retries with
  | zero => simp only [freshWithin, like.maxRetries]
  | succ retries inductionHypothesis =>
      simp only [freshWithin, alternative_congr like, inductionHypothesis]

/-- So are the further alternatives of a rule. -/
theorem alternatives_congr
    (like : first.DrawsLike second)
    (lhs : String)
    (isRoot sole : Bool)
    (taken : List Alternative)
    (count : Nat) :
    (alternatives ⟨first, nonterminals, terminals⟩ lhs isRoot sole taken count :
        Draw σ (List Alternative)) =
      alternatives ⟨second, nonterminals, terminals⟩ lhs isRoot sole taken count := by
  induction count generalizing taken with
  | zero => rfl
  | succ count inductionHypothesis =>
      simp only [alternatives, freshAlternative, like.maxRetries, freshWithin_congr like,
        inductionHypothesis]

/-- So are rules. -/
theorem rule_congr
    (like : first.DrawsLike second)
    (lhs : String)
    (isRoot : Bool) :
    (rule ⟨first, nonterminals, terminals⟩ lhs isRoot : Draw σ Rule) =
      rule ⟨second, nonterminals, terminals⟩ lhs isRoot := by
  simp only [rule, like.minAlternatives, like.maxAlternatives, alternatives_congr like]

end Generator

namespace Config

/-- Grammars are drawn in the same way. -/
theorem generate_congr (like : first.DrawsLike second) (size : Int) :
    (first.generate size : Draw σ (Option Grammar)) = second.generate size := by
  have sizes : first.maxSize = second.maxSize := by
    unfold Settings.maxSize
    rw [like.nonterminalAlphabet, like.terminalAlphabet]
  have selects : (first.selectAlphabet size : Draw σ (List String × List String)) =
      second.selectAlphabet size := by
    unfold selectAlphabet
    rw [sizes, like.nonterminalAlphabet, like.terminalAlphabet]
  unfold generate
  rw [selects]
  refine bind_congr fun selected => ?_
  simp only [Generator.grammar, like.rootName, Generator.rule_congr like]

end Config

end Draws

section Replies

variable {firstConfig secondConfig : Config} {firstMachine secondMachine : Machine}

/-- A trial draws the same grammar. -/
theorem Config.trialGrammar_congr
    (like : firstConfig.DrawsLike secondConfig)
    (size trial : Int) :
    firstConfig.trialGrammar size trial = secondConfig.trialGrammar size trial := by
  unfold trialGrammar trialSeed
  rw [generate_congr like, like.seed]

/-- Whether hyacc accepts does not depend on its limit. -/
theorem Oracle.accepted_hyacc_congr
    (first second : Argument Seconds)
    (command other : Argument String)
    (outcome : Outcome) :
    (verdictOn? ⟨some (.hyacc first), command⟩ outcome).any Verdict.accepted =
      (verdictOn? ⟨some (.hyacc second), other⟩ outcome).any Verdict.accepted := by
  cases outcome <;> rfl

/-- The engine of a role accepts a grammar in both runs or in none. -/
theorem Config.opinion_congr
    (replies : firstMachine.RepliesLike secondMachine)
    (role : Role)
    (grammar : Grammar) :
    (((firstConfig.oraclesOn firstMachine).get role).opinion? firstMachine.engines role
        grammar).any Verdict.accepted =
      (((secondConfig.oraclesOn secondMachine).get role).opinion? secondMachine.engines role
        grammar).any Verdict.accepted := by
  have rendered : ((firstConfig.oraclesOn firstMachine).get role).render grammar =
      ((secondConfig.oraclesOn secondMachine).get role).render grammar := by
    cases role <;> rfl
  unfold Oracle.opinion?
  rw [rendered]
  cases ((secondConfig.oraclesOn secondMachine).get role).render grammar with
  | error error => rfl
  | ok text =>
      dsimp only
      rw [replies]
      generalize (secondMachine.engines role (Oracle.reading text)).outcome = outcome
      cases role with
      | strict => cases outcome <;> rfl
      | relaxed => exact Oracle.accepted_hyacc_congr _ _ _ _ outcome
      | reference => cases outcome <;> rfl

/-- The same is told of a trial. -/
theorem Config.account?_congr
    (like : firstConfig.DrawsLike secondConfig)
    (replies : firstMachine.RepliesLike secondMachine)
    (size trial : Int) :
    firstConfig.account? firstMachine size trial =
      secondConfig.account? secondMachine size trial := by
  have drawn : firstConfig.drawn? size trial = secondConfig.drawn? size trial := by
    rw [drawn?, drawn?, trialGrammar_congr like]
  have accepts : firstConfig.accepts firstMachine size trial =
      secondConfig.accepts secondMachine size trial := by
    funext role
    unfold accepts
    rw [drawn]
    cases secondConfig.drawn? size trial with
    | none => rfl
    | some grammar => exact opinion_congr replies role grammar
  rw [account?, account?, drawn, accepts]

end Replies

/-- What is told of a trial is told under its number. -/
theorem Config.trial_of_account?_eq
    {config : Config}
    {machine : Machine}
    {size trial : Int}
    {account : Account}
    (told : config.account? machine size trial = some account) :
    account.trial = trial := by
  unfold account? at told
  obtain ⟨grammar, -, told⟩ := Option.bind_eq_some_iff.1 told
  obtain ⟨text, -, rfl⟩ := Option.map_eq_some_iff.1 told
  rfl

/-- The accounts of the trials below a bound. -/
theorem Config.filter_accounts
    (config : Config)
    (machine : Machine)
    (size : Int)
    {trials bound : Int}
    (within : bound ≤ trials) :
    ((stride 0 trials 1).filterMap (config.account? machine size)).filter
        (fun account => account.trial < bound) =
      (stride 0 bound 1).filterMap (config.account? machine size) := by
  rw [← filter_lt_stride_one within, List.filter_filterMap, List.filterMap_filter]
  refine List.filterMap_congr fun trial _ => ?_
  cases told : config.account? machine size trial with
  | none => simp
  | some account => simp [Option.filter, trial_of_account?_eq told]

namespace Batch.Settled

variable {machine : Machine} {config : Config} {size trials bound : Int}
variable {found : List Classified}

/-- The accounts of the first trials of a class are what these trials settle. -/
theorem filter_accounts
    (settled : Settled machine config size trials found)
    (within : bound ≤ trials)
    (corpusClass : CorpusClass) :
    ((Partition.ofResults size trials found).accounts corpusClass).filter
        (fun account => account.trial < bound) =
      ((stride 0 bound 1).filterMap (config.account? machine size)).filter
        fun account => corpusClass.takes account.accepted := by
  rw [settled.accounts_eq_filter, ← config.filter_accounts machine size within,
    List.filter_filter, List.filter_filter]
  exact List.filter_congr fun account _ => Bool.and_comm _ _

/-- The accounts of a class are in the order of their trials. -/
theorem pairwise_accounts
    (settled : Settled machine config size trials found)
    (corpusClass : CorpusClass) :
    ((Partition.ofResults size trials found).accounts corpusClass).Pairwise
      fun first second => first.trial < second.trial := by
  have ordered := (stride_pairwise_lt Int.one_pos : (stride 0 trials 1).Pairwise (· < ·)).filter
    fun trial =>
      config.draws size trial && corpusClass.takes (config.accepts machine size trial)
  rw [← settled.trials_members corpusClass, List.pairwise_map] at ordered
  rw [Partition.accounts, List.pairwise_map]
  exact ordered

end Batch.Settled

/-- In increasing order, the items below a bound come first. -/
theorem filter_lt_prefix
    {items : List Account}
    (ordered : items.Pairwise fun first second => first.trial < second.trial)
    (bound : Int) :
    items.filter (fun account => account.trial < bound) <+: items := by
  induction items with
  | nil => exact List.prefix_rfl
  | cons account later inductionHypothesis =>
      obtain ⟨before, orderedLater⟩ := List.pairwise_cons.1 ordered
      by_cases below : account.trial < bound
      · rw [List.filter_cons_of_pos (by simpa using below)]
        exact (List.prefix_cons_inj account).2 (inductionHypothesis orderedLater)
      · have none : (account :: later).filter (fun account => account.trial < bound) = [] := by
          rw [List.filter_eq_nil_iff]
          intro other member
          rcases List.mem_cons.1 member with rfl | behind
          · simpa using below
          · have further := before other behind
            simp only [decide_eq_true_eq]
            omega
        rw [none]
        exact List.nil_prefix

namespace Corpus

variable {machine : Machine} {config : Config} {first last trials workers : Int}
variable {output : Path} {workspace : Workspace} {partitions : List Partition}

/-- Batches in a row give a partition for each size, with what each batch gives. -/
theorem batches_gives
    {batch : Int → Job Partition}
    {property : Partition → Prop}
    {sizes : List Int}
    {before : List Partition}
    (each : ∀ size workspace partition,
      ((batch size).run.perform machine workspace).1 = .ok partition →
        partition.size = size ∧ property partition)
    (given : ((batches batch sizes before).run.perform machine workspace).1 = .ok partitions) :
    ∃ more,
      partitions = before ++ more ∧
        more.map Partition.size = sizes ∧
        ∀ partition ∈ more, property partition := by
  induction sizes generalizing before workspace with
  | nil =>
      cases given
      exact ⟨[], (List.append_nil _).symm, rfl, nofun⟩
  | cons size later inductionHypothesis =>
      obtain ⟨partition, made, rest⟩ := exists_of_run_bind given
      obtain ⟨more, rfl, sizes, others⟩ := inductionHypothesis rest
      obtain ⟨sameSize, isSo⟩ := each size workspace partition made
      refine ⟨partition :: more, by simp, ?_, List.forall_mem_cons.2 ⟨isSo, others⟩⟩
      rw [List.map_cons, sameSize, sizes]

/-- The partitions of a run sort what the trials of each size settle. -/
theorem generate_settled
    (undisturbed : 1 < workers → machine.Undisturbed)
    (given : ((generate config first last trials output workers).run.perform
      machine workspace).1 = .ok partitions) :
    partitions.map Partition.size = stride first last 1 ∧
      ∀ partition ∈ partitions, ∃ found,
        Batch.Settled machine config partition.size trials found ∧
          partition = .ofResults partition.size trials found := by
  have single : ∀ size workspace partition,
      ((Batch.run config size trials output workers).run.perform machine workspace).1 =
          .ok partition →
        partition.size = size ∧ ∃ found,
          Batch.Settled machine config partition.size trials found ∧
            partition = .ofResults partition.size trials found := by
    intro size workspace partition made
    obtain ⟨found, settled, rfl⟩ := Batch.exists_settled undisturbed made
    exact ⟨rfl, found, settled, rfl⟩
  obtain ⟨more, rfl, sizes, each⟩ := batches_gives single given
  exact ⟨sizes, each⟩

/--
Two completed runs that agree in what grammars are drawn from, and whose engines reply
alike, tell the same of all trials that both have made, size by size and class by class.
Ranges, numbers of trials, outputs, scratch directories, workers and their turns, and
whatever was in the trees may differ. More trials only add to what is told.
-/
theorem generate_reproducible
    {firstConfig secondConfig : Config}
    {firstMachine secondMachine : Machine}
    {firstLeast firstEnd secondLeast secondEnd : Int}
    {firstTrials secondTrials firstWorkers secondWorkers : Int}
    {firstOutput secondOutput : Path}
    {firstWorkspace secondWorkspace : Workspace}
    {firstPartitions secondPartitions : List Partition}
    (like : firstConfig.DrawsLike secondConfig)
    (replies : firstMachine.RepliesLike secondMachine)
    (undisturbed : 1 < firstWorkers ∨ 1 < secondWorkers → firstMachine.Undisturbed)
    (firstGiven : ((generate firstConfig firstLeast firstEnd firstTrials firstOutput
      firstWorkers).run.perform firstMachine firstWorkspace).1 = .ok firstPartitions)
    (secondGiven : ((generate secondConfig secondLeast secondEnd secondTrials secondOutput
      secondWorkers).run.perform secondMachine secondWorkspace).1 = .ok secondPartitions) :
    firstPartitions.map Partition.size = stride firstLeast firstEnd 1 ∧
      secondPartitions.map Partition.size = stride secondLeast secondEnd 1 ∧
      ∀ firstPartition ∈ firstPartitions, ∀ secondPartition ∈ secondPartitions,
        firstPartition.size = secondPartition.size →
          ∀ corpusClass : CorpusClass,
            (firstPartition.accounts corpusClass).filter
                (fun account => account.trial < min firstTrials secondTrials) =
              (secondPartition.accounts corpusClass).filter
                (fun account => account.trial < min firstTrials secondTrials) ∧
              (firstTrials ≤ secondTrials →
                firstPartition.accounts corpusClass <+: secondPartition.accounts corpusClass) := by
  have undisturbedFirst : 1 < firstWorkers → firstMachine.Undisturbed :=
    fun shared => undisturbed (.inl shared)
  have undisturbedSecond : 1 < secondWorkers → secondMachine.Undisturbed :=
    fun shared role text => replies role text ▸ undisturbed (.inr shared) role text
  obtain ⟨firstSizes, eachFirst⟩ := generate_settled undisturbedFirst firstGiven
  obtain ⟨secondSizes, eachSecond⟩ := generate_settled undisturbedSecond secondGiven
  refine ⟨firstSizes, secondSizes, ?_⟩
  intro firstPartition isFirst secondPartition isSecond sameSize corpusClass
  obtain ⟨firstFound, firstSettled, isFirstSorted⟩ := eachFirst firstPartition isFirst
  obtain ⟨secondFound, secondSettled, isSecondSorted⟩ := eachSecond secondPartition isSecond
  rw [isFirstSorted, isSecondSorted, ← sameSize]
  rw [← sameSize] at secondSettled
  generalize firstPartition.size = size at firstSettled secondSettled ⊢
  have told : firstConfig.account? firstMachine size = secondConfig.account? secondMachine size :=
    funext fun trial => Config.account?_congr like replies size trial
  have agree : ∀ bound, bound ≤ firstTrials → bound ≤ secondTrials →
      ((Partition.ofResults size firstTrials firstFound).accounts corpusClass).filter
          (fun account => account.trial < bound) =
        ((Partition.ofResults size secondTrials secondFound).accounts corpusClass).filter
          (fun account => account.trial < bound) := by
    intro bound withinFirst withinSecond
    rw [firstSettled.filter_accounts withinFirst, secondSettled.filter_accounts withinSecond, told]
  refine ⟨agree _ (Int.min_le_left _ _) (Int.min_le_right _ _), fun fewer => ?_⟩
  have all := firstSettled.filter_accounts (Int.le_refl firstTrials) corpusClass
  rw [← firstSettled.accounts_eq_filter] at all
  rw [← all, agree firstTrials (Int.le_refl _) fewer]
  exact filter_lt_prefix (secondSettled.pairwise_accounts corpusClass) firstTrials

/-- Where nothing is left to chance, a batch for size two looks at one grammar only. -/
theorem run_of_like_chanceless
    (like : config.DrawsLike .chanceless)
    (trials workers : Int)
    (output : Path) :
    Batch.run config 2 trials output workers =
      Batch.runWith (Trial.about config 2 Config.onlyGrammar) config.scratchRoot 2 trials output
        workers := by
  refine Batch.run_of_settles ?_ trials workers output
  rw [Config.generate_congr like]
  exact Config.generate_chanceless

/-- Then a run for size two can be followed without its stream. -/
theorem exists_of_like_chanceless
    (like : config.DrawsLike .chanceless)
    (succeeds : ((Batch.runWith (Trial.about config 2 Config.onlyGrammar) config.scratchRoot 2
      trials output workers).run.perform machine workspace).1.isOk = true) :
    ∃ partitions, ((generate config 2 3 trials output workers).run.perform machine
      workspace).1 = .ok partitions := by
  rw [← run_of_like_chanceless like] at succeeds
  have shape : generate config 2 3 trials output workers =
      Batch.run config 2 trials output workers >>= fun partition => return [partition] := rfl
  rw [shape, perform_run_bind]
  cases ended : ((Batch.run config 2 trials output workers).run.perform machine workspace).1 with
  | error failure =>
      rw [ended] at succeeds
      cases succeeds
  | ok partition => exact ⟨[partition], rfl⟩

/-- A run of one trial and one of two trials, elsewhere and with another limit. -/
theorem generate_reproducible_of_chanceless :
    let firstConfig := Config.chanceless
    let secondConfig : Config :=
      { Config.chanceless with scratchRoot := some "scratch", hyaccLimit := .of (.whole 1) }
    let secondMachine : Machine := { Machine.calm with temporary := "/tmp", turns := (· + 1) }
    let firstStart : Workspace := { tree := .empty }
    let secondStart : Workspace := { tree := FileTree.empty.insert ["scratch"] .directory }
    ∃ firstPartitions secondPartitions,
      (firstConfig.DrawsLike secondConfig ∧
        Machine.calm.RepliesLike secondMachine ∧
        ((1 : Int) < 1 ∨ (1 : Int) < 1 → Machine.calm.Undisturbed) ∧
        ((generate firstConfig 2 3 1 ⟨.relative, ["out"]⟩ 1).run.perform .calm firstStart).1 =
          .ok firstPartitions ∧
        ((generate secondConfig 2 3 2 ⟨.relative, ["corpus"]⟩ 1).run.perform secondMachine
          secondStart).1 = .ok secondPartitions) ∧
      firstPartitions.map Partition.size = stride 2 3 1 ∧
        secondPartitions.map Partition.size = stride 2 3 1 ∧
        ∀ firstPartition ∈ firstPartitions, ∀ secondPartition ∈ secondPartitions,
          firstPartition.size = secondPartition.size →
            ∀ corpusClass : CorpusClass,
              (firstPartition.accounts corpusClass).filter
                  (fun account => account.trial < min 1 2) =
                (secondPartition.accounts corpusClass).filter
                  (fun account => account.trial < min 1 2) ∧
                ((1 : Int) ≤ 2 →
                  firstPartition.accounts corpusClass <+:
                    secondPartition.accounts corpusClass) := by
  intro firstConfig secondConfig secondMachine firstStart secondStart
  have likeFirst : firstConfig.DrawsLike .chanceless := by constructor <;> rfl
  have likeSecond : secondConfig.DrawsLike .chanceless := by constructor <;> rfl
  have like : firstConfig.DrawsLike secondConfig := by constructor <;> rfl
  have replies : Machine.calm.RepliesLike secondMachine := fun _ _ => rfl
  have undisturbed : Machine.calm.Undisturbed := nofun
  obtain ⟨firstPartitions, firstGiven⟩ := exists_of_like_chanceless likeFirst
    (by decide +kernel : ((Batch.runWith (Trial.about firstConfig 2 Config.onlyGrammar)
      firstConfig.scratchRoot 2 1 ⟨.relative, ["out"]⟩ 1).run.perform .calm firstStart).1.isOk =
        true)
  obtain ⟨secondPartitions, secondGiven⟩ := exists_of_like_chanceless likeSecond
    (by decide +kernel : ((Batch.runWith (Trial.about secondConfig 2 Config.onlyGrammar)
      secondConfig.scratchRoot 2 2 ⟨.relative, ["corpus"]⟩ 1).run.perform secondMachine
        secondStart).1.isOk = true)
  exact ⟨firstPartitions, secondPartitions,
    ⟨like, replies, fun _ => undisturbed, firstGiven, secondGiven⟩,
    generate_reproducible like replies (fun _ => undisturbed) firstGiven secondGiven⟩

end Corpus

end GrammarCorpus
