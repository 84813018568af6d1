import GrammarCorpus.Corpus.Run
import GrammarCorpus.Proofs.Keeping
import GrammarCorpus.Proofs.Pool.Awaited
import GrammarCorpus.Proofs.Stride

namespace GrammarCorpus

/-!
# What all trials of a batch keep

What every trial keeps, and what it makes sure of for its result, holds of a whole batch:
with one worker trial by trial, and with several whatever turns they are given. In a pool
the results are on their way for some time, so the messages that nobody has taken have to
be looked at as well. No other trials are made than those of the batch, so nothing needs to
be known about others.
-/

open Work

variable {ε α : Type} {isMade : Int → Prop} {property : α → Prop}

/-- What is said of a result, if there is one. -/
def Message.Has (property : α → Prop) : Message ε α → Prop
  | .result _ found => ∀ value ∈ found, property value
  | _ => True

/-- What is said of the trials still to be made, and of the results that are on their way. -/
structure Lane.Has (isMade : Int → Prop) (property : α → Prop) (lane : Lane ε α) : Prop where
  trials : ∀ trial ∈ lane.trials, isMade trial
  sent : ∀ message ∈ lane.sent, message.Has property

/-- What is said of all results that have arrived. -/
def Harvest.Has (property : α → Prop) (harvest : Harvest α) : Prop :=
  ∀ item ∈ harvest.results, property item.2

namespace Lane

variable {lane : Lane ε α}

/-- A worker that comes to its end has no further results. -/
theorem Has.finish
    (has : lane.Has isMade property)
    {last : List (Message ε α)}
    (noResult : ∀ message ∈ last, message.Has property) :
    (lane.finish last).Has isMade property where
  trials _ member := absurd member List.not_mem_nil
  sent := by
    intro message member
    simp only [Lane.finish, List.mem_append, List.mem_singleton] at member
    rcases member with (before | isLast) | rfl
    · exact has.sent message before
    · exact noResult message isLast
    · trivial

/-- A trial adds its result. -/
theorem Has.record
    (has : lane.Has isMade property)
    (isInterrupt : ε → Bool)
    {trial : Int}
    {rest : List Int}
    (next : lane.trials = trial :: rest)
    {outcome : Except ε (Option α)}
    (given : ∀ found, outcome = .ok found → ∀ value ∈ found, property value) :
    (lane.record isInterrupt trial rest outcome).Has isMade property := by
  cases outcome with
  | ok found =>
      refine ⟨fun later member => has.trials later (next ▸ List.mem_cons_of_mem _ member), ?_⟩
      intro message member
      simp only [Lane.record, List.mem_append, List.mem_singleton] at member
      rcases member with before | rfl
      · exact has.sent message before
      · exact given found rfl
  | error failure =>
      simp only [Lane.record]
      split
      · exact has.finish fun message member => absurd member List.not_mem_nil
      · refine has.finish fun message member => ?_
        rw [List.mem_singleton.1 member]
        trivial

end Lane

namespace Harvest

/-- One more result arrives, or a trial without one. -/
theorem Has.add
    {harvest : Harvest α}
    (has : harvest.Has property)
    (trial : Int)
    {found : Option α}
    (given : ∀ value ∈ found, property value) :
    (harvest.add trial found).Has property := by
  intro item member
  simp only [Harvest.add, List.mem_append, Option.mem_toList,
    Option.map_eq_some_iff] at member
  rcases member with before | ⟨value, isFound, rfl⟩
  · exact has item before
  · exact given value isFound

/-- Putting results in order keeps what is said of them. -/
theorem Has.sorted
    {harvest : Harvest α}
    (has : harvest.Has property) :
    ∀ value ∈ harvest.sorted, property value := by
  intro value member
  obtain ⟨item, isItem, rfl⟩ := List.mem_map.1 member
  exact has item (List.mem_mergeSort.1 isItem)

end Harvest

namespace Pool

/-- What is said of a trial that a turn makes, and of the lanes behind the turn. -/
def Turn.Has (isMade : Int → Prop) (property : α → Prop) : Turn ε α → Prop
  | .over => True
  | .take message lanes => message.Has property ∧ ∀ lane ∈ lanes, lane.Has isMade property
  | .close lanes => ∀ lane ∈ lanes, lane.Has isMade property
  | .attempt trial resume => isMade trial ∧ ∀ outcome,
      (∀ found, outcome = .ok found → ∀ value ∈ found, property value) →
        ∀ lane ∈ resume outcome, lane.Has isMade property

/-- A turn takes a message away, or adds the result of a trial. -/
theorem Possible.has
    {isInterrupt : ε → Bool}
    {lanes : List (Lane ε α)}
    {next : Turn ε α}
    (possible : Possible isInterrupt lanes next)
    (has : ∀ lane ∈ lanes, lane.Has isMade property) :
    next.Has isMade property := by
  cases possible with
  | nobody => trivial
  | @takeLast before after lane message finished waiting =>
      refine ⟨(has lane (by simp)).sent message (by simp [waiting]), fun other member => ?_⟩
      exact has other (by simp at member ⊢; tauto)
  | @take before after lane message sent waiting stays =>
      have here := has lane (by simp)
      refine ⟨here.sent message (by simp [waiting]), fun other member => ?_⟩
      simp only [List.mem_append, List.mem_cons] at member
      rcases member with isBefore | rfl | isAfter
      · exact has other (by simp [isBefore])
      · refine ⟨here.trials, fun later inside => ?_⟩
        exact here.sent later (waiting ▸ List.mem_cons_of_mem _ inside)
      · exact has other (by simp [isAfter])
  | leave finished silent =>
      exact fun other member => has other (by simp at member ⊢; tauto)
  | @finish before after lane unfinished idle =>
      intro other member
      simp only [List.mem_append, List.mem_singleton] at member
      rcases member with (isBefore | isAfter) | rfl
      · exact has other (by simp [isBefore])
      · exact has other (by simp [isAfter])
      · exact (has lane (by simp)).finish fun message noMessage => absurd noMessage List.not_mem_nil
  | @attempt before after lane trial rest unfinished next =>
      have here := has lane (by simp)
      refine ⟨here.trials trial (by simp [next]), fun outcome given other member => ?_⟩
      simp only [List.mem_append, List.mem_singleton] at member
      rcases member with (isBefore | isAfter) | rfl
      · exact has other (by simp [isBefore])
      · exact has other (by simp [isAfter])
      · exact here.record isInterrupt next given

/-- A turn that was picked keeps what is said of the lanes. -/
theorem has_of_turn
    {isInterrupt : ε → Bool}
    {lanes : List (Lane ε α)}
    {pick : Nat}
    {picked : Turn ε α}
    (chosen : turn isInterrupt lanes pick = picked)
    (has : ∀ lane ∈ lanes, lane.Has isMade property) :
    picked.Has isMade property :=
  chosen ▸ (possible_turn isInterrupt lanes pick).has has

variable {machine : Machine} {holds : Workspace → Prop}
variable {pick : Work Nat} {attempt : Int → Work (Except ε (Option α))}
variable {progress : Int → Work Unit}

/-- A pool keeps what its turns, its trials and its messages keep. -/
theorem run_keeps
    (isInterrupt : ε → Bool)
    (picks : Keeps machine holds (fun _ => True) pick)
    (attempts : ∀ trial, isMade trial → KeepsOrFails machine holds
      (fun found => ∀ value ∈ found, property value) (ExceptT.mk (attempt trial)))
    (tells : ∀ done, Keeps machine holds (fun _ => True) (progress done))
    (lanes : List (Lane ε α))
    (harvest : Harvest α)
    (has : ∀ lane ∈ lanes, lane.Has isMade property)
    (harvested : harvest.Has property) :
    KeepsOrFails machine holds (fun final => final.Has property)
      (ExceptT.mk (run isInterrupt pick attempt progress lanes harvest)) := by
  -- The weight of the lanes bounds the number of turns, as it does in `run` itself.
  induction bound : weight lanes using Nat.strongRecOn generalizing lanes harvest with
  | _ bound inductionHypothesis =>
      subst bound
      change Keeps _ _ _ (run isInterrupt pick attempt progress lanes harvest)
      unfold run
      refine Keeps.bind picks fun picked _ => ?_
      split
      · refine Keeps.pure ?_
        intro final ends
        cases ends
        exact harvested
      · rename_i trial found after chosen
        obtain ⟨given, hasThen⟩ := has_of_turn chosen has
        refine Keeps.bind (tells _) fun _ _ => ?_
        exact inductionHypothesis _ (lighter_of_turn chosen) after _ hasThen
          (harvested.add trial given) rfl
      · exact Keeps.pure fun _ ends => by cases ends
      · rename_i worker after chosen
        exact inductionHypothesis _ (lighter_of_turn chosen) after harvest
          (has_of_turn chosen has).2 harvested rfl
      · rename_i after chosen
        exact inductionHypothesis _ (lighter_of_turn chosen) after harvest
          (has_of_turn chosen has) harvested rfl
      · rename_i trial resume chosen
        obtain ⟨isNext, hasThen⟩ := has_of_turn chosen has
        refine Keeps.bind (attempts trial isNext) fun outcome given => ?_
        exact inductionHypothesis _ (lighter_of_turn chosen _) _ harvest
          (hasThen outcome given) harvested rfl

end Pool

namespace Batch

variable {machine : Machine} {holds : Workspace → Prop} {property : Classified → Prop}
variable {attempt : Attempt} {scratch : Path}

/-- What is kept by all that changes neither the tree nor the names. -/
def Overlooks (holds : Workspace → Prop) : Prop :=
  ∀ before after : Workspace,
    after.tree = before.tree → after.named = before.named → holds before → holds after

/-- What is said about a batch matters to nobody. -/
theorem Overlooks.say (overlooks : Overlooks holds) (message : String) :
    Keeps machine holds (fun _ => True) (Work.say message) :=
  .of_forall fun workspace => overlooks workspace _ rfl rfl

/-- Whose turn it is matters to nobody. -/
theorem Overlooks.nextTurn (overlooks : Overlooks holds) :
    Keeps machine holds (fun _ => True) Work.nextTurn :=
  .of_forall fun workspace => overlooks workspace _ rfl rfl

/-- How far a batch has come matters to nobody. -/
theorem Overlooks.progress (overlooks : Overlooks holds) (trials done : Int) :
    Keeps machine holds (fun _ => True) (progress trials done) := by
  unfold Batch.progress
  split
  · exact overlooks.say _
  · exact .pure trivial

variable (overlooks : Overlooks holds)

include overlooks

/-- Trials that are made in order keep what each of them keeps. -/
theorem sequentially_keeps
    {numbers : List Int}
    (attempts : ∀ trial ∈ numbers, KeepsOrFails machine holds
      (fun found => ∀ value ∈ found, property value) (attempt scratch trial))
    (trials : Int)
    (results : List Classified)
    (given : ∀ value ∈ results, property value) :
    KeepsOrFails machine holds (fun all => ∀ value ∈ all, property value)
      (sequentially attempt trials scratch numbers results) := by
  induction numbers generalizing results with
  | nil => exact .pure given
  | cons trial later inductionHypothesis =>
      obtain ⟨first, others⟩ := List.forall_mem_cons.1 attempts
      refine .bind first fun found isFound => ?_
      refine .bind (.lift (overlooks.progress trials (trial + 1))) fun _ _ => ?_
      refine inductionHypothesis others _ fun value member => ?_
      rcases List.mem_append.1 member with before | itself
      · exact given value before
      · exact isFound value (Option.mem_toList.1 itself)

/-- Trials that are shared among workers keep what each of them keeps. -/
theorem concurrently_keeps
    {trials : Int}
    (attempts : ∀ trial ∈ stride 0 trials 1, KeepsOrFails machine holds
      (fun found => ∀ value ∈ found, property value) (attempt scratch trial))
    (size workers : Int) :
    KeepsOrFails machine holds (fun all => ∀ value ∈ all, property value)
      (concurrently attempt size trials scratch workers) := by
  refine .bind (.lift (overlooks.say _)) fun _ _ => ?_
  have started : ∀ lane ∈ (Pool.start trials workers : List (Lane Failure Classified)),
      lane.Has (· ∈ stride 0 trials 1) property := by
    intro lane member
    obtain ⟨worker, isWorker, rfl⟩ := List.mem_map.1 member
    obtain ⟨begun, below⟩ := mem_stride_one.1 isWorker
    have everyTrial := flatMap_stride_perm trials (Int.lt_of_le_of_lt begun below)
    exact ⟨fun trial inside => everyTrial.mem_iff.1 (List.mem_flatMap.2 ⟨_, isWorker, inside⟩),
      nofun⟩
  have picks : Keeps machine holds (fun _ => True) Work.nextTurn := overlooks.nextTurn
  have keeps := Pool.run_keeps Failure.isInterrupt picks attempts
    (overlooks.progress trials) _ Harvest.empty started nofun
  refine .bind (.lift keeps) fun ending ended => ?_
  cases ending with
  | error failure => exact .throw failure
  | ok harvest => exact .pure (ended harvest rfl).sorted

end Batch

end GrammarCorpus
