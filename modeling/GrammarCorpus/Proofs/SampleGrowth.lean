import GrammarCorpus.Proofs.Mersenne
import GrammarCorpus.Proofs.Redrawing
import GrammarCorpus.Proofs.SampleReport
import Mathlib.Data.List.Infix

namespace GrammarCorpus

/-!
# Larger samples continue smaller ones

The generator can be called on one stream any number of times, and what each call ends with does
not depend on how many grammars are wanted. A sample takes the first of these calls, up to the
last grammar that is wanted or to the last attempt that is allowed. Both ends move on with the
number of wanted grammars, so the calls for a smaller sample are those that a larger one begins
with.

A call that fails leaves a stream as well, but there is no sample behind it.
-/

namespace Sample

variable {σ : Type} [RandomSource σ] (config : Config) (size : Int) (start : σ)

/-- The grammar that a call yields, if it does. -/
def yielded : Except GenerationError (Option Grammar) → List Grammar
  | .ok drawn => drawn.toList
  | .error _ => []

/-- The grammars that so many calls yield. -/
def found (calls : Nat) : List Grammar :=
  (List.range calls).flatMap fun earlier => yielded ((config.generate size).outcome start earlier)

/-- So many calls are made for a sample: each gives a result, and a grammar was wanted before it. -/
structure Makes (wanted calls : Nat) : Prop where
  succeeds : ∀ earlier < calls, ∃ drawn, (config.generate size).outcome start earlier = .ok drawn
  wanting : ∀ earlier < calls, (found config size start earlier).length < wanted

/-- How a sample ends for which so many calls are allowed, and the stream that it leaves. -/
inductive Ends (wanted allowed : Nat) : Except GenerationError Sample × σ → Prop where
  /-- There are as many grammars as are wanted. -/
  | full {calls : Nat} :
      Makes config size start wanted calls →
      calls ≤ allowed →
      (found config size start calls).length = wanted →
      Ends wanted allowed
        (.ok ⟨found config size start calls, calls⟩, (config.generate size).stream start calls)
  /-- All calls have been made. -/
  | used :
      Makes config size start wanted allowed →
      Ends wanted allowed
        (.ok ⟨found config size start allowed, allowed⟩,
          (config.generate size).stream start allowed)
  /-- A call has failed for which there was need. -/
  | failed {calls : Nat} {error : GenerationError} :
      Makes config size start wanted calls →
      calls < allowed →
      (found config size start calls).length < wanted →
      (config.generate size).outcome start calls = .error error →
      Ends wanted allowed (.error error, (config.generate size).stream start (calls + 1))

variable {config : Config} {size : Int} {start : σ} {wanted calls : Nat}

/-- One more call adds what it yields. -/
theorem found_succ (calls : Nat) :
    found config size start (calls + 1) =
      found config size start calls ++ yielded ((config.generate size).outcome start calls) := by
  rw [found, List.range_succ, List.flatMap_append, List.flatMap_singleton]
  rfl

/-- Fewer calls find the first of the grammars that more of them do. -/
theorem found_prefix {fewer more : Nat} (le : fewer ≤ more) :
    found config size start fewer <+: found config size start more := by
  induction le with
  | refl => exact List.prefix_rfl
  | step _ inductionHypothesis =>
      rw [found_succ]
      exact inductionHypothesis.trans (List.prefix_append _ _)

/-- A call yields one grammar at most. -/
theorem length_yielded_le (result : Except GenerationError (Option Grammar)) :
    (yielded result).length ≤ 1 := by
  rcases result with error | drawn
  · exact Nat.zero_le 1
  · cases drawn <;> simp [yielded]

namespace Makes

/-- No calls are made yet. -/
theorem none : Makes config size start wanted 0 :=
  ⟨nofun, nofun⟩

/-- A call that gives a result is made if a grammar is wanted. -/
theorem succ
    {drawn : Option Grammar}
    (makes : Makes config size start wanted calls)
    (wanting : (found config size start calls).length < wanted)
    (succeeds : (config.generate size).outcome start calls = .ok drawn) :
    Makes config size start wanted (calls + 1) := by
  constructor
  · exact Nat.forall_lt_succ_right.2 ⟨makes.succeeds, drawn, succeeds⟩
  · exact Nat.forall_lt_succ_right.2 ⟨makes.wanting, wanting⟩

/-- No more grammars are found than are wanted. -/
theorem length_found_le (makes : Makes config size start wanted calls) :
    (found config size start calls).length ≤ wanted := by
  cases calls with
  | zero => exact Nat.zero_le wanted
  | succ earlier =>
      have wanting := makes.wanting earlier (Nat.lt_succ_self earlier)
      have one := length_yielded_le ((config.generate size).outcome start earlier)
      rw [found_succ, List.length_append]
      omega

/-- A call that fails is not among those that are made, nor is a later one. -/
theorem le_of_fails
    {failing : Nat}
    {error : GenerationError}
    (makes : Makes config size start wanted calls)
    (fails : (config.generate size).outcome start failing = .error error) :
    calls ≤ failing := by
  by_contra later
  obtain ⟨drawn, succeeds⟩ := makes.succeeds failing (Nat.lt_of_not_le later)
  rw [fails] at succeeds
  cases succeeds

end Makes

/-- From the calls that have been made for a sample it goes on to its end. -/
theorem extend_ends
    {made : Nat}
    (makes : Makes config size start wanted made)
    (attempts : Nat) :
    Ends config size start wanted (made + attempts)
      ((extend config size wanted attempts ⟨found config size start made, made⟩).run.run
        ((config.generate size).stream start made)) := by
  induction attempts generalizing made with
  | zero => exact .used makes
  | succ attempts inductionHypothesis =>
      rw [extend]
      split
      · rename_i enough
        exact .full makes (Nat.le_add_right _ _) (Nat.le_antisymm makes.length_found_le enough)
      · rename_i missing
        have wanting := Nat.lt_of_not_le missing
        cases ends : (config.generate size).outcome start made with
        | error error =>
            rw [Draw.run_bind_of_error ends]
            exact .failed makes (by omega) wanting ends
        | ok drawn =>
            rw [Draw.run_bind_of_ok ends]
            have later := inductionHypothesis (makes.succ wanting ends)
            rw [found_succ, ends, Nat.add_right_comm] at later
            exact later

/-- A sample that is collected ends with the calls that are allowed for it. -/
theorem collect_ends (config : Config) (size : Int) (start : σ) (wanted : Nat) :
    Ends config size start wanted (attemptsEach * wanted)
      ((collect config size wanted).run.run start) := by
  have nothing : Makes config size start wanted 0 := .none
  have ends := extend_ends nothing (attemptsEach * wanted)
  rwa [Nat.zero_add] at ends

/--
A sample that holds the first grammars found by a hundred calls for each of them, and for which no
call was made that failed or that was not needed.
-/
structure IsFirst (config : Config) (size : Int) (start : σ) (wanted : Nat) (sample : Sample) :
    Prop where
  grammars_eq_found : sample.grammars = found config size start sample.attempts
  grammars_eq_take : sample.grammars = (found config size start (100 * wanted)).take wanted
  attempts_le : sample.attempts ≤ 100 * wanted
  ends : sample.grammars.length = wanted ∨ sample.attempts = 100 * wanted
  makes : Makes config size start wanted sample.attempts
  leaves : (collect config size wanted).run.run start =
    (.ok sample, (config.generate size).stream start sample.attempts)

/-- A sample that has been collected holds the first grammars. -/
theorem isFirst_of_collect
    {sample : Sample}
    (collected : ((collect config size wanted).run.run start).1 = .ok sample) :
    IsFirst config size start wanted sample := by
  have ends := collect_ends config size start wanted
  generalize ran : (collect config size wanted).run.run start = run at collected ends
  cases ends with
  | full makes few enough =>
      obtain rfl := Except.ok.inj collected
      have begins : found config size start _ <+: found config size start (100 * wanted) :=
        found_prefix few
      have isFront := List.prefix_iff_eq_take.1 begins
      rw [enough] at isFront
      exact ⟨rfl, isFront, few, .inl enough, makes, ran⟩
  | used makes =>
      obtain rfl := Except.ok.inj collected
      have isFront := List.take_of_length_le makes.length_found_le
      exact ⟨rfl, isFront.symm, Nat.le_refl _, .inr rfl, makes, ran⟩
  | failed => cases collected

/-- A sample fails with a call that was needed for it, and that is the first to fail. -/
theorem exists_failed_of_collect
    {error : GenerationError}
    (fails : ((collect config size wanted).run.run start).1 = .error error) :
    ∃ calls < 100 * wanted,
      Makes config size start wanted calls ∧
        (found config size start calls).length < wanted ∧
        (config.generate size).outcome start calls = .error error := by
  have ends := collect_ends config size start wanted
  generalize (collect config size wanted).run.run start = run at fails ends
  cases ends with
  | full => cases fails
  | used => cases fails
  | failed makes few wanting failed =>
      obtain rfl := Except.error.inj fails
      exact ⟨_, few, makes, wanting, failed⟩

variable {fewer more : Nat}

/-- A call that fails for a sample fails for every larger one. -/
theorem collect_fails_of_le
    {error : GenerationError}
    (fails : ((collect config size fewer).run.run start).1 = .error error)
    (le : fewer ≤ more) :
    ((collect config size more).run.run start).1 = .error error := by
  obtain ⟨calls, few, makes, wanting, failed⟩ := exists_failed_of_collect fails
  cases ends : ((collect config size more).run.run start).1 with
  | ok sample =>
      -- It would have made its calls before the one that fails, which are too few.
      have isFirst := isFirst_of_collect ends
      have before := isFirst.makes.le_of_fails failed
      rcases isFirst.ends with enough | used
      · have begins : sample.grammars <+: found config size start calls :=
          isFirst.grammars_eq_found ▸ found_prefix before
        have found := begins.length_le
        omega
      · omega
  | error other =>
      obtain ⟨others, -, makesOthers, -, failedToo⟩ := exists_failed_of_collect ends
      have same : others = calls :=
        Nat.le_antisymm (makesOthers.le_of_fails failed) (makes.le_of_fails failedToo)
      rw [same, failed] at failedToo
      rw [Except.error.inj failedToo]

/-- A larger sample begins with the smaller one. -/
theorem IsFirst.grammars_prefix
    {smaller larger : Sample}
    (isSmaller : IsFirst config size start fewer smaller)
    (isLarger : IsFirst config size start more larger)
    (le : fewer ≤ more) :
    smaller.grammars <+: larger.grammars := by
  have calls : found config size start (100 * fewer) <+: found config size start (100 * more) :=
    found_prefix (Nat.mul_le_mul_left 100 le)
  rw [isSmaller.grammars_eq_take, isLarger.grammars_eq_take]
  exact (List.IsPrefix.take calls fewer).trans (List.take_prefix_take_left le)

end Sample

namespace Config

/-- A sample is drawn on the stream of the seed that is configured. -/
theorem sample_of_seed
    {config : Config}
    {seed : Int}
    (seeded : config.seed = some seed)
    (size wanted : Int) :
    config.sample size wanted =
      ((Sample.collect config size wanted.toNat).run.run (Mersenne.ofSeed seed)).1 := by
  rw [sample, seeded]
  rfl

/--
With a fixed seed there is one stream on which the generator is called. A sample holds the first
grammars that are found on it, as many as are wanted or as a hundred calls for each of them find;
it makes no call behind the last grammar that it needs, and no more calls than these. A larger
sample begins with the smaller one. A call that fails is the end of both, and no call fails if the
alphabets allow the size and names cannot be lacking.
-/
theorem sample_grows
    {config : Config}
    {seed : Int}
    (seeded : config.seed = some seed)
    (size : Int)
    {fewer more : Int}
    (le : fewer ≤ more) :
    (∀ sample, config.sample size fewer = .ok sample →
      Sample.IsFirst config size (Mersenne.ofSeed seed) fewer.toNat sample ∧
        ∀ larger, config.sample size more = .ok larger → sample.grammars <+: larger.grammars) ∧
    (∀ error, config.sample size fewer = .error error →
      (∃ calls < 100 * fewer.toNat,
        Sample.Makes config size (Mersenne.ofSeed seed) fewer.toNat calls ∧
          (Sample.found config size (Mersenne.ofSeed seed) calls).length < fewer.toNat ∧
          (config.generate size).outcome (Mersenne.ofSeed seed) calls = .error error) ∧
        config.sample size more = .error error) ∧
    (config.Allows size → ¬ config.MayLackNames size →
      ∃ sample, config.sample size fewer = .ok sample) := by
  have counts : fewer.toNat ≤ more.toNat := Int.toNat_le_toNat le
  rw [sample_of_seed seeded, sample_of_seed seeded]
  refine ⟨fun sample collected => ?_, fun error fails => ?_, fun allowed enough => ?_⟩
  · have isFirst := Sample.isFirst_of_collect collected
    refine ⟨isFirst, fun larger collectedToo => ?_⟩
    exact isFirst.grammars_prefix (Sample.isFirst_of_collect collectedToo) counts
  · exact ⟨Sample.exists_failed_of_collect fails, Sample.collect_fails_of_le fails counts⟩
  · have fails : (Sample.collect config size fewer.toNat : Draw Mersenne Sample).FailsOnly
        fun error => error = .nothingToChoose ∧ config.MayLackNames size :=
      Sample.extend_failsOnly (generate_failsOnly allowed.1 allowed.2) _
    exact fails.exists_ok (fun error lacks => enough lacks.2) _

/-- The standard configuration with its usual seed. -/
def seededStandard : Config :=
  { standard with seed := some defaultSeed }

/-- Samples of one and of two grammars that are drawn with it. -/
theorem sample_grows_of_seededStandard :
    seededStandard.seed = some defaultSeed ∧
      (∀ sample, seededStandard.sample 3 1 = .ok sample →
        Sample.IsFirst seededStandard 3 (Mersenne.ofSeed defaultSeed) 1 sample ∧
          ∀ larger, seededStandard.sample 3 2 = .ok larger →
            sample.grammars <+: larger.grammars) ∧
      ∃ sample, seededStandard.sample 3 1 = .ok sample := by
  have seeded : seededStandard.seed = some defaultSeed := rfl
  have grows := sample_grows seeded 3 (by decide : (1 : Int) ≤ 2)
  refine ⟨seeded, grows.1, grows.2.2 ?_ ?_⟩
  · decide +kernel
  · decide +kernel

end Config

end GrammarCorpus
