import GrammarCorpus.Proofs.Corpus.Batch
import GrammarCorpus.Proofs.Pool.Foresight

namespace GrammarCorpus

/-!
# What the classes of a partition hold

A batch that gives a partition has made all of its trials, and every trial comes to what
its number settles. So each class has, in trial order, exactly the trials whose verdicts
belong there, whoever has made them and whatever else was in the tree.
-/

open Work

/-- What is told of a classified grammar: its trial, its text, and which engines accept it. -/
structure Account where
  trial : Int
  text : String
  accepted : Role → Bool

namespace Classified

/-- What is told of a result. -/
def account (classified : Classified) : Account where
  trial := classified.trial
  text := classified.text
  accepted := classified.accepted

end Classified

namespace CorpusClass

/-- Whether a class takes grammars that the engines accept in some way. -/
def takes (accepted : Role → Bool) : CorpusClass → Bool
  | lr1 => accepted .strict && accepted .reference
  | lrK => accepted .relaxed && !accepted .strict
  | disputed =>
      accepted .strict != accepted .reference || (accepted .strict && !accepted .relaxed)

/-- Whether a class holds a result depends on which engines accept. -/
theorem holds_eq_takes (corpusClass : CorpusClass) (classified : Classified) :
    corpusClass.holds classified = corpusClass.takes classified.account.accepted := by
  cases corpusClass <;> rfl

/-- A grammar is in no class if all engines refuse it, and only then. -/
theorem takes_eq_false_iff (accepted : Role → Bool) :
    (∀ corpusClass : CorpusClass, corpusClass.takes accepted = false) ↔
      ∀ role, accepted role = false := by
  constructor
  · intro inNone
    have refused : ∀ strict relaxed reference : Bool,
        (strict && reference) = false →
        (relaxed && !strict) = false →
        (strict != reference || (strict && !relaxed)) = false →
        strict = false ∧ relaxed = false ∧ reference = false := by
      decide
    obtain ⟨strict, relaxed, reference⟩ :=
      refused _ _ _ (inNone lr1) (inNone lrK) (inNone disputed)
    intro role
    cases role with
    | strict => exact strict
    | relaxed => exact relaxed
    | reference => exact reference
  · intro refused corpusClass
    cases corpusClass <;> simp [takes, refused]

/-- A grammar is in two classes at most. -/
theorem countP_takes_le (accepted : Role → Bool) :
    all.countP (fun corpusClass => corpusClass.takes accepted) ≤ 2 := by
  simp only [all, List.countP_cons, List.countP_nil, takes]
  cases accepted .strict <;> cases accepted .relaxed <;> cases accepted .reference <;> decide

end CorpusClass

namespace Partition

/-- What is told of the grammars of a class. -/
def accounts (partition : Partition) (corpusClass : CorpusClass) : List Account :=
  (partition.members corpusClass).map Classified.account

end Partition

namespace Config

/-- What is told of a trial, if there is a grammar to be told of. -/
def account? (config : Config) (machine : Machine) (size trial : Int) : Option Account :=
  (config.drawn? size trial).bind fun grammar =>
    grammar.canonical?.map fun text =>
      { trial, text, accepted := config.accepts machine size trial }

/-- If the generator settles on something, every trial draws it. -/
theorem trialGrammar_of_settles
    {config : Config}
    {size : Int}
    {found : Option Grammar}
    (settles : (config.generate size : Draw Mersenne (Option Grammar)).Settles found)
    (trial : Int) :
    config.trialGrammar size trial = .ok found :=
  settles _

/-- Whether a trial draws a grammar. -/
def draws (config : Config) (size trial : Int) : Bool :=
  (config.drawn? size trial).isSome

end Config

namespace Trial

variable {machine : Machine} {config : Config} {size : Int} {classified : Classified}
variable {grammar : Grammar}

/-- What a trial does about the grammar that it draws. -/
def about (config : Config) (size : Int) (grammar : Grammar) : Attempt :=
  fun scratch trial => do
    let directory := scratch.child (toString trial)
    let classified ← Job.blaming directory (classify config size trial grammar directory)
    return some classified

/-- If all trials draw one grammar, they differ in their numbers only. -/
theorem run_eq_about
    (drawn : ∀ trial, config.trialGrammar size trial = .ok (some grammar)) :
    run config size = about config size grammar := by
  funext scratch trial
  unfold run
  rw [drawn]
  rfl

/-- The trial of a result has drawn the grammar. -/
theorem Judges.drawn?_eq (judges : Judges machine config size classified grammar) :
    config.drawn? size classified.trial = some grammar := by
  rw [Config.drawn?, judges.drawn]
  rfl

/-- What is told of a result is what its trial settles. -/
theorem Judges.account?_eq (judges : Judges machine config size classified grammar) :
    config.account? machine size classified.trial = some classified.account := by
  rw [Config.account?, judges.drawn?_eq, Option.bind_some, judges.rendered, Option.map_some,
    Classified.account, ← funext judges.accepted]

end Trial

namespace Batch

variable {machine : Machine} {config : Config} {size trials workers : Int}
variable {workspace : Workspace}

/-- If the generator settles on a grammar, a batch looks at this grammar only. -/
theorem run_of_settles
    {grammar : Grammar}
    (settles : (config.generate size : Draw Mersenne (Option Grammar)).Settles (some grammar))
    (trials workers : Int)
    (output : Path) :
    run config size trials output workers =
      runWith (Trial.about config size grammar) config.scratchRoot size trials output
        workers := by
  unfold run
  rw [Trial.run_eq_about (Config.trialGrammar_of_settles settles)]

/-- Results that are what the trials of a batch settle, in trial order. -/
structure Settled
    (machine : Machine)
    (config : Config)
    (size trials : Int)
    (found : List Classified) : Prop where
  judged : ∀ classified ∈ found, ∃ grammar,
    Trial.Judges machine config size classified grammar
  trials_eq : found.map Classified.trial = (stride 0 trials 1).filter (config.draws size)
  accounts_eq : found.map Classified.account =
    (stride 0 trials 1).filterMap (config.account? machine size)

/-- The results of a batch are what its trials settle, however many workers there are. -/
theorem results_settled
    {scratch : Path}
    {found : List Classified}
    (undisturbed : 1 < workers → machine.Undisturbed)
    (ends : ((results (Trial.run config size) size trials workers scratch).run.perform
      machine workspace).1 = .ok found) :
    Settled machine config size trials found := by
  obtain ⟨outcome, may, succeed, rfl⟩ := results_exist_outcome
    (fun workspace trial => Trial.run_mayEnd machine config size scratch workspace trial)
    (fun shared trial failure mayFail => mayFail (undisturbed shared)) ends
  have each : ∀ trial ∈ stride 0 trials 1,
      (Pool.found? outcome trial = none ∧ config.drawn? size trial = none) ∨
        ∃ classified grammar,
          Pool.found? outcome trial = some classified ∧
            classified.trial = trial ∧
            Trial.Judges machine config size classified grammar := by
    intro trial member
    obtain ⟨nonnegative, below⟩ := mem_stride_one.1 member
    obtain ⟨result, ended⟩ := succeed trial nonnegative below
    have comesTo := may trial
    unfold Pool.found?
    rw [ended] at comesTo ⊢
    cases result with
    | none =>
        refine .inl ⟨rfl, ?_⟩
        rw [Config.drawn?, show config.trialGrammar size trial = .ok none from comesTo]
        rfl
    | some classified =>
        obtain ⟨isTrial, grammar, judges⟩ := comesTo
        exact .inr ⟨classified, grammar, rfl, isTrial, judges⟩
  refine {
    judged := ?_
    trials_eq := ?_
    accounts_eq := ?_ }
  · intro classified member
    obtain ⟨trial, isTrial, isFound⟩ := List.mem_filterMap.1 member
    rcases each trial isTrial with ⟨nothing, -⟩ | ⟨other, grammar, finds, -, judges⟩
    · cases nothing.symm.trans isFound
    · cases finds.symm.trans isFound
      exact ⟨grammar, judges⟩
  · rw [List.map_filterMap, ← List.filterMap_eq_filter]
    refine List.filterMap_congr fun trial isTrial => ?_
    rcases each trial isTrial with ⟨nothing, none⟩ | ⟨other, grammar, finds, rfl, judges⟩
    · simp [nothing, Config.draws, none, Option.guard]
    · simp [finds, Config.draws, judges.drawn?_eq, Option.guard]
  · rw [List.map_filterMap]
    refine List.filterMap_congr fun trial isTrial => ?_
    rcases each trial isTrial with ⟨nothing, none⟩ | ⟨other, grammar, finds, rfl, judges⟩
    · simp [nothing, Config.account?, none]
    · simp [finds, judges.account?_eq]

/-- The accounts of a class, in trial order. -/
theorem Settled.accounts_eq_filter
    {found : List Classified}
    (settled : Settled machine config size trials found)
    (corpusClass : CorpusClass) :
    (Partition.ofResults size trials found).accounts corpusClass =
      ((stride 0 trials 1).filterMap (config.account? machine size)).filter
        fun account => corpusClass.takes account.accepted := by
  rw [Partition.accounts, Partition.members_ofResults, ← settled.accounts_eq, List.filter_map]
  exact congrArg _ (List.filter_congr fun classified _ => corpusClass.holds_eq_takes classified)

/-- The trials of a class are those whose grammars the engines accept in its way. -/
theorem Settled.trials_members
    {found : List Classified}
    (settled : Settled machine config size trials found)
    (corpusClass : CorpusClass) :
    ((Partition.ofResults size trials found).members corpusClass).map Classified.trial =
      (stride 0 trials 1).filter fun trial =>
        config.draws size trial && corpusClass.takes (config.accepts machine size trial) := by
  have judged : found.filter corpusClass.holds = found.filter
      ((fun trial => corpusClass.takes (config.accepts machine size trial)) ∘
        Classified.trial) := by
    refine List.filter_congr fun classified member => ?_
    obtain ⟨grammar, judges⟩ := settled.judged classified member
    rw [CorpusClass.holds_eq_takes, Classified.account, funext judges.accepted]
    rfl
  rw [Partition.members_ofResults, judged, ← List.filter_map, settled.trials_eq,
    List.filter_filter]
  exact List.filter_congr fun trial _ => Bool.and_comm _ _

/-- What succeeds in a scratch directory has succeeded somewhere. -/
theorem exists_of_within
    {ε α : Type}
    {blame : String → FileFailure → ε}
    {parent : Option String}
    {work : Path → ExceptT ε Work α}
    {value : α}
    (succeeds : ((Scratch.within blame parent work).run.perform machine workspace).1 =
      .ok value) :
    ∃ scratch entered, ((work scratch).run.perform machine entered).1 = .ok value := by
  unfold Scratch.within at succeeds
  obtain ⟨directory, -, succeeds⟩ := exists_of_run_bind succeeds
  obtain ⟨made, -, succeeds⟩ := exists_of_run_bind succeeds
  cases made with
  | error failure => cases succeeds
  | ok scratch =>
      obtain ⟨worked, isWorked, succeeds⟩ := exists_of_run_bind succeeds
      cases worked with
      | error failure =>
          obtain ⟨_, -, succeeds⟩ := exists_of_run_bind succeeds
          cases succeeds
      | ok found =>
          obtain ⟨_, -, succeeds⟩ := exists_of_run_bind succeeds
          cases succeeds
          exact ⟨scratch, _, Except.ok.inj isWorked⟩

/-- A partition that a batch gives sorts what the trials settle. -/
theorem exists_settled
    {output : Path}
    {partition : Partition}
    (undisturbed : 1 < workers → machine.Undisturbed)
    (given : ((run config size trials output workers).run.perform machine workspace).1 =
      .ok partition) :
    ∃ found, Settled machine config size trials found ∧
      partition = .ofResults size trials found := by
  unfold run at given
  rw [runWith_eq] at given
  obtain ⟨stored, within, said⟩ := exists_of_run_bind given
  cases said
  obtain ⟨scratch, entered, worked⟩ := exists_of_within within
  obtain ⟨found, made, worked⟩ := exists_of_run_bind worked
  obtain ⟨placements, -, worked⟩ := exists_of_run_bind worked
  cases worked
  exact ⟨found, results_settled undisturbed made, rfl⟩

end Batch

end GrammarCorpus
