import GrammarCorpus.CommandLine.CorpusCommand
import GrammarCorpus.Corpus.Run
import GrammarCorpus.Proofs.Stride

namespace GrammarCorpus

/-!
# The streams of a run

Every trial of a run has a stream of its own, which starts from the absolute value of its
seed. A seed is a number with three digits, for the seed of the run, the size and the trial;
but nothing keeps the last digit below its radix, and with a negative seed of the run the
number may be negative.

Two trials have the same seed if they are as many times 100003 trials apart as they are sizes
apart. They have opposite seeds if the sums of their sizes and of their numbers make up for
twice the seed of the run, which has to be negative then.
-/

open List

namespace Corpus

/-- The trials of a run, each with its size and its number. -/
def allTrials (first last trials : Int) : List (Int × Int) :=
  (stride first last 1).flatMap fun size => (stride 0 trials 1).map fun trial => (size, trial)

/-- The trials of a run have the sizes and the numbers within its bounds. -/
theorem mem_allTrials {first last trials size trial : Int} :
    (size, trial) ∈ allTrials first last trials ↔
      (first ≤ size ∧ size < last) ∧ 0 ≤ trial ∧ trial < trials := by
  simp only [allTrials, mem_flatMap, mem_map, mem_stride_one, Prod.mk.injEq]
  constructor
  · rintro ⟨_, inSizes, _, inTrials, rfl, rfl⟩
    exact ⟨inSizes, inTrials⟩
  · rintro ⟨inSizes, inTrials⟩
    exact ⟨size, inSizes, trial, inTrials, rfl, rfl⟩

end Corpus

namespace Config

variable {config : Config} {first last trials size other trial otherTrial : Int}

/-- No two trials of a run have seeds with the same absolute value. -/
def TellsApart (config : Config) (first last trials : Int) : Prop :=
  ∀ one ∈ Corpus.allTrials first last trials, ∀ another ∈ Corpus.allTrials first last trials,
    one ≠ another →
      (config.trialSeed one.1 one.2).natAbs ≠ (config.trialSeed another.1 another.2).natAbs

/--
No sum of two sizes and no sum of two numbers make up for twice the seed of a run. Sums that
only one trial has with itself are left out.
-/
def AvoidsOpposites (config : Config) (first last trials : Int) : Prop :=
  ∀ sizes numbers : Int,
    2 * first ≤ sizes → sizes ≤ 2 * (last - 1) → 0 ≤ numbers → numbers ≤ 2 * (trials - 1) →
    (2 * first < sizes ∧ sizes < 2 * (last - 1) ∨ 0 < numbers ∧ numbers < 2 * (trials - 1)) →
      2000006 * config.seed.getD defaultSeed + 100003 * sizes + numbers ≠ 0

/-- When two trials have the same seed. -/
theorem trialSeed_eq_iff :
    config.trialSeed size trial = config.trialSeed other otherTrial ↔
      trial - otherTrial = 100003 * (other - size) := by
  unfold trialSeed
  omega

/-- The sum of two seeds, which is zero if they are opposite. -/
theorem trialSeed_add :
    config.trialSeed size trial + config.trialSeed other otherTrial =
      2000006 * config.seed.getD defaultSeed + 100003 * (size + other) +
        (trial + otherTrial) := by
  unfold trialSeed
  omega

/-- A sum of two numbers within bounds is one of different numbers, unless it is extreme. -/
theorem exists_summands
    {least greatest sum : Int}
    (notLess : 2 * least ≤ sum)
    (notMore : sum ≤ 2 * greatest) :
    ∃ one another, (least ≤ one ∧ one ≤ greatest) ∧ (least ≤ another ∧ another ≤ greatest) ∧
      one + another = sum ∧ (2 * least < sum ∧ sum < 2 * greatest → one ≠ another) := by
  by_cases small : sum ≤ least + greatest
  · exact ⟨least, sum - least, by omega⟩
  · exact ⟨sum - greatest, greatest, by omega⟩

/-- No sums make up for the seed of a run exactly if no two trials have opposite seeds. -/
theorem avoidsOpposites_iff :
    config.AvoidsOpposites first last trials ↔
      ∀ one ∈ Corpus.allTrials first last trials,
        ∀ another ∈ Corpus.allTrials first last trials,
          one ≠ another →
            config.trialSeed one.1 one.2 + config.trialSeed another.1 another.2 ≠ 0 := by
  constructor
  · rintro avoids ⟨size, trial⟩ isOne ⟨other, otherTrial⟩ isOther differ
    obtain ⟨withinSizes, withinTrials⟩ := Corpus.mem_allTrials.1 isOne
    obtain ⟨otherSizes, otherTrials⟩ := Corpus.mem_allTrials.1 isOther
    rw [trialSeed_add]
    rw [ne_eq, Prod.mk.injEq, not_and_or] at differ
    exact avoids (size + other) (trial + otherTrial) (by omega) (by omega) (by omega) (by omega)
      (by omega)
  · intro apart sizes numbers leastSize greatestSize leastNumber greatestNumber some
    obtain ⟨size, other, isSize, isOther, rfl, sizesDiffer⟩ :=
      exists_summands leastSize greatestSize
    obtain ⟨trial, otherTrial, isTrial, isOtherTrial, rfl, trialsDiffer⟩ :=
      @exists_summands 0 _ _ leastNumber greatestNumber
    rw [← trialSeed_add]
    refine apart (size, trial) (Corpus.mem_allTrials.2 (by omega)) (other, otherTrial)
      (Corpus.mem_allTrials.2 (by omega)) ?_
    rw [ne_eq, Prod.mk.injEq, not_and_or]
    exact some.imp sizesDiffer trialsDiffer

/-- Trials that are told apart have neither the same seed nor opposite seeds. -/
theorem tellsApart_iff_same_opposite :
    config.TellsApart first last trials ↔
      (∀ one ∈ Corpus.allTrials first last trials,
        ∀ another ∈ Corpus.allTrials first last trials,
          one ≠ another →
            config.trialSeed one.1 one.2 ≠ config.trialSeed another.1 another.2) ∧
        config.AvoidsOpposites first last trials := by
  have each : ∀ one another : Int, one.natAbs ≠ another.natAbs ↔
      one ≠ another ∧ one + another ≠ 0 := by
    intro one another
    rw [ne_eq, Int.natAbs_eq_natAbs_iff]
    omega
  rw [avoidsOpposites_iff]
  constructor
  · intro apart
    exact ⟨fun one isOne another isOther differ =>
        ((each _ _).1 (apart one isOne another isOther differ)).1,
      fun one isOne another isOther differ =>
        ((each _ _).1 (apart one isOne another isOther differ)).2⟩
  · rintro ⟨same, opposite⟩ one isOne another isOther differ
    exact (each _ _).2
      ⟨same one isOne another isOther differ, opposite one isOne another isOther differ⟩

/-- The seeds of a run differ unless one size runs into the trials of the next. -/
theorem trialSeeds_ne_iff :
    (∀ one ∈ Corpus.allTrials first last trials,
      ∀ another ∈ Corpus.allTrials first last trials,
        one ≠ another →
          config.trialSeed one.1 one.2 ≠ config.trialSeed another.1 another.2) ↔
      trials ≤ 100003 ∨ last ≤ first + 1 := by
  constructor
  · intro differ
    by_contra many
    obtain ⟨manyTrials, twoSizes⟩ := not_or.1 many
    -- The first trial of the second size is the one with this number of the first size.
    have late : (first, 100003) ∈ Corpus.allTrials first last trials :=
      Corpus.mem_allTrials.2 (by omega)
    have early : (first + 1, 0) ∈ Corpus.allTrials first last trials :=
      Corpus.mem_allTrials.2 (by omega)
    exact differ _ late _ early (by simp) (trialSeed_eq_iff.2 (by omega))
  · rintro few ⟨size, trial⟩ isOne ⟨other, otherTrial⟩ isOther differ same
    have within := Corpus.mem_allTrials.1 isOne
    have withinOther := Corpus.mem_allTrials.1 isOther
    rw [trialSeed_eq_iff] at same
    refine differ (Prod.ext_iff.2 ?_)
    dsimp only
    omega

/-- There are no opposite seeds if the seed of the run is not negative. -/
theorem avoidsOpposites_of_nonneg
    (natural : 0 ≤ config.seed.getD defaultSeed)
    (least : 0 ≤ first) :
    config.AvoidsOpposites first last trials := by
  intro sizes numbers leastSize _ leastNumber _ some
  omega

/--
There are no opposite seeds for the sizes that the standard alphabets cover, if there are few
trials. Only two seeds of a run come close: -1 with sizes that add up to 19, and -2 with sizes
that add up to 39.
-/
theorem avoidsOpposites_of_few
    (least : 2 ≤ first)
    (greatest : last ≤ 27)
    (few : trials ≤ 49948) :
    config.AvoidsOpposites first last trials := by
  intro sizes numbers leastSize greatestSize leastNumber greatestNumber _ opposite
  generalize config.seed.getD defaultSeed = seed at opposite
  have close : seed = -1 ∨ seed = -2 := by omega
  rcases close with rfl | rfl
  · omega
  · omega

end Config

/-- What comes to a result has come through its first step. -/
theorem exists_of_bind {ε α β : Type} {first : Except ε α} {next : α → Except ε β} {result : β}
    (comes : (first >>= next) = .ok result) :
    ∃ value, first = .ok value ∧ next value = .ok result := by
  cases first with
  | error failure => cases comes
  | ok value => exact ⟨value, rfl, comes⟩

namespace CorpusChoices

variable {choices : CorpusChoices} {range : CorpusRange}

/-- The bounds of a run are looked at before they are accepted. -/
theorem bounds_of_range (accepted : choices.range = .ok range) :
    2 ≤ range.fromSize ∧ range.toSize ≤ 27 := by
  have largest : (Config.standard.maxSize : Int) = 26 := by decide +kernel
  have passed : ∀ {condition : Bool} {refusal : Refusal} {value : Unit},
      (if condition = true then Except.error refusal else .ok ()) = .ok value →
        condition = false := by
    intro condition refusal value comes
    cases condition with
    | true => cases comes
    | false => rfl
  unfold CorpusChoices.range at accepted
  rw [largest] at accepted
  obtain ⟨first, -, accepted⟩ := exists_of_bind accepted
  obtain ⟨_, least, accepted⟩ := exists_of_bind accepted
  obtain ⟨last, -, accepted⟩ := exists_of_bind accepted
  obtain ⟨_, -, accepted⟩ := exists_of_bind accepted
  obtain ⟨_, greatest, accepted⟩ := exists_of_bind accepted
  obtain ⟨trials, -, accepted⟩ := exists_of_bind accepted
  obtain ⟨_, -, accepted⟩ := exists_of_bind accepted
  obtain ⟨workers, -, accepted⟩ := exists_of_bind accepted
  obtain ⟨_, -, accepted⟩ := exists_of_bind accepted
  cases accepted
  have allowed := of_decide_eq_false (passed greatest)
  refine ⟨Int.not_lt.1 (of_decide_eq_false (passed least)), ?_⟩
  change last ≤ 27
  omega

/-- So the command line accepts no others. -/
theorem bounds_of_read
    {processors : Nat}
    {words : List String}
    (accepted : read processors words = .ok (choices, range)) :
    2 ≤ range.fromSize ∧ range.toSize ≤ 27 := by
  unfold read refusedBy at accepted
  cases comes : (do
      let choices ← spec.read words (onProcessors processors)
      return (choices, ← choices.range) : Except Refusal (CorpusChoices × CorpusRange)) with
  | error refusal =>
      rw [comes] at accepted
      cases accepted
  | ok found =>
      rw [comes] at accepted
      cases accepted
      obtain ⟨read, -, comes⟩ := exists_of_bind comes
      obtain ⟨bounds, isRange, comes⟩ := exists_of_bind comes
      cases comes
      exact bounds_of_range isRange

end CorpusChoices

/--
The absolute values of all seeds of a run differ exactly if there are at most 100003 trials,
or one size, and no sums of two sizes and two numbers make up for twice the seed of the run.
None do if that seed is left out or not negative; and whatever it is, none do in a run that
the command line accepts with at most 49948 trials.
-/
theorem Config.trialSeeds_tell_apart (config : Config) (first last trials : Int) :
    (config.TellsApart first last trials ↔
      (trials ≤ 100003 ∨ last ≤ first + 1) ∧ config.AvoidsOpposites first last trials) ∧
    (0 ≤ config.seed.getD defaultSeed → 0 ≤ first →
      (config.TellsApart first last trials ↔ trials ≤ 100003 ∨ last ≤ first + 1)) ∧
    (2 ≤ first → last ≤ 27 → trials ≤ 49948 → config.TellsApart first last trials) ∧
    ∀ processors words choices range,
      CorpusChoices.read processors words = .ok (choices, range) → range.trials ≤ 49948 →
        choices.config.TellsApart range.fromSize range.toSize range.trials := by
  have exactly : ∀ config : Config, ∀ first last trials, config.TellsApart first last trials ↔
      (trials ≤ 100003 ∨ last ≤ first + 1) ∧ config.AvoidsOpposites first last trials :=
    fun _ _ _ _ => tellsApart_iff_same_opposite.trans (and_congr_left' trialSeeds_ne_iff)
  have few : ∀ config : Config, ∀ first last trials, 2 ≤ first → last ≤ 27 → trials ≤ 49948 →
      config.TellsApart first last trials := by
    intro config first last trials least greatest few
    exact (exactly config first last trials).2
      ⟨.inl (by omega), avoidsOpposites_of_few least greatest few⟩
  refine ⟨exactly config first last trials, ?_, few config first last trials, ?_⟩
  · intro natural least
    rw [exactly, and_iff_left (avoidsOpposites_of_nonneg natural least)]
  · intro processors words choices range accepted
    obtain ⟨least, greatest⟩ := CorpusChoices.bounds_of_read accepted
    exact few _ _ _ _ least greatest

/--
In a run of 100004 trials for the sizes 2 and 3, which the command line accepts, the last trial
of size 2 has the stream of the first of size 3. With the seed -1, two trials of size 9 have
the seeds -1 and 1; with the seed -2, it takes 49949 trials until two of the sizes 19 and 20
have opposite seeds.
-/
theorem Config.trialSeeds_collide :
    (CorpusChoices.read 1
        ["out", "--from-size", "2", "--to-size", "4", "-n", "100004"]).toOption.map Prod.snd =
          some { fromSize := 2, toSize := 4, trials := 100004, workers := 1 } ∧
      (2, 100003) ∈ Corpus.allTrials 2 4 100004 ∧ (3, 0) ∈ Corpus.allTrials 2 4 100004 ∧
      Mersenne.ofSeed (Config.standard.trialSeed 2 100003) =
        Mersenne.ofSeed (Config.standard.trialSeed 3 0) ∧
      ¬ Config.standard.TellsApart 2 4 100004 ∧
      ¬ { Config.standard with seed := some (-1) }.TellsApart 9 10 99978 ∧
      ¬ { Config.standard with seed := some (-2) }.TellsApart 19 21 49949 := by
  have late : (2, 100003) ∈ Corpus.allTrials 2 4 100004 := Corpus.mem_allTrials.2 (by decide)
  have early : (3, 0) ∈ Corpus.allTrials 2 4 100004 := Corpus.mem_allTrials.2 (by decide)
  refine ⟨by decide +kernel, late, early, ?_, fun apart => ?_, fun apart => ?_, fun apart => ?_⟩
  · rw [show Config.standard.trialSeed 2 100003 = Config.standard.trialSeed 3 0 by decide]
  · exact apart _ late _ early (by decide) (by decide)
  · exact apart (9, 99975) (Corpus.mem_allTrials.2 (by decide)) (9, 99977)
      (Corpus.mem_allTrials.2 (by decide)) (by decide) (by decide)
  · exact apart (19, 49948) (Corpus.mem_allTrials.2 (by decide)) (20, 49947)
      (Corpus.mem_allTrials.2 (by decide)) (by decide) (by decide)

/-- Runs that tell their trials apart, with the seed of the standard and with a negative one. -/
theorem Config.trialSeeds_tell_apart_standard :
    (Config.standard.TellsApart 2 4 100003) ∧
      { Config.standard with seed := some (-2) }.TellsApart 19 21 49948 ∧
      ∃ choices range, CorpusChoices.read 1 ["out"] = .ok (choices, range) ∧
        range.trials ≤ 49948 ∧
        choices.config.TellsApart range.fromSize range.toSize range.trials := by
  refine ⟨?_, ?_, ?_⟩
  · exact ((Config.trialSeeds_tell_apart .standard 2 4 100003).2.1 (by decide) (by decide)).2
      (.inl (by decide))
  · exact (Config.trialSeeds_tell_apart { Config.standard with seed := some (-2) }
      19 21 49948).2.2.1 (by decide) (by decide) (by decide)
  · have bounds : (CorpusChoices.read 1 ["out"]).toOption.map Prod.snd =
        some { fromSize := 10, toSize := 12, trials := 100, workers := 1 } := by
      decide +kernel
    cases accepted : CorpusChoices.read 1 ["out"] with
    | error refused =>
        rw [accepted] at bounds
        cases bounds
    | ok found =>
        obtain ⟨choices, range⟩ := found
        rw [accepted] at bounds
        have few : range.trials ≤ 49948 := by
          cases bounds
          decide
        exact ⟨choices, range, rfl, few, (Config.trialSeeds_tell_apart .standard 2 4 0).2.2.2
          1 ["out"] choices range accepted few⟩

end GrammarCorpus
