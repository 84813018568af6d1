import GrammarCorpus.Corpus.Trial

namespace GrammarCorpus

/-!
# Pools of workers

The trials of a run are shared among workers by stride: the trials of a worker are
its number and every further one at a distance of the number of workers. Workers
make their trials independently and put messages into a queue; the messages of one
worker arrive in the order it put them, those of different workers in any order.

Each worker is kept as a lane: the trials it still has to make, and the messages it
has put and nobody has taken. A turn lets one lane make a step, or takes the first
message of a lane, as the schedule has it. The run ends when every worker has
reported its end, or with the first fatal message.
-/

/-- What a worker puts into the queue. -/
inductive Message (ε α : Type) where
  /-- A trial has come to its end; it may have no result. -/
  | result (trial : Int) (found : Option α)
  /-- A trial has failed, and the worker gives up. -/
  | fatal (trial : Int) (failure : ε)
  /-- The worker has come to its end. -/
  | done (worker : Int)
deriving DecidableEq, Repr

/-- A worker: the trials to make, and the messages nobody has taken. -/
structure Lane (ε α : Type) where
  worker : Int
  trials : List Int
  sent : List (Message ε α)
  /-- Whether the worker has reported its end. -/
  finished : Bool
deriving DecidableEq, Repr

/-- The numbers from a start on, at a distance, and below a stop, or above it going down. -/
def stride (start stop distance : Int) : List Int :=
  let count :=
    if 0 < distance then (stop - start + distance - 1) / distance
    else if distance < 0 then (start - stop - distance - 1) / (-distance)
    else 0
  (List.range count.toNat).map fun step : Nat => start + step * distance

namespace Lane

variable {ε α : Type}

/-- A worker that has not begun. -/
def start (worker stop workers : Int) : Lane ε α :=
  { worker, trials := stride worker stop workers, sent := [], finished := false }

/-- The worker after it has put last messages and reported its end. -/
def finish (lane : Lane ε α) (last : List (Message ε α)) : Lane ε α :=
  { lane with
    trials := []
    sent := lane.sent ++ last ++ [.done lane.worker]
    finished := true }

/--
The worker after a trial has ended. An interrupt ends the worker without a word; any
other failure is reported first.
-/
def record
    (isInterrupt : ε → Bool)
    (lane : Lane ε α)
    (trial : Int)
    (rest : List Int)
    (outcome : Except ε (Option α)) :
    Lane ε α :=
  match outcome with
  | .ok found =>
      { lane with trials := rest, sent := lane.sent ++ [.result trial found] }
  | .error failure =>
      if isInterrupt failure then lane.finish [] else lane.finish [.fatal trial failure]

/--
The worker after it has made all its trials, or after it was told to stop: that many
trials are allowed at most, if a number is given.
-/
def completeFrom
    {m : Type → Type}
    [Monad m]
    (isInterrupt : ε → Bool)
    (attempt : Int → m (Except ε (Option α))) :
    List Int → Option Nat → Lane ε α → m (Lane ε α)
  | [], _, lane => return lane.finish []
  | trial :: rest, allowed, lane => do
      if allowed = some 0 then
        return lane.finish []
      else
        let outcome ← attempt trial
        let after := lane.record isInterrupt trial rest outcome
        if after.finished then
          return after
        else
          completeFrom isInterrupt attempt rest (allowed.map (· - 1)) after

/-- The worker alone, from its first trial to its end. -/
def complete
    {m : Type → Type}
    [Monad m]
    (isInterrupt : ε → Bool)
    (allowed : Option Nat)
    (attempt : Int → m (Except ε (Option α)))
    (lane : Lane ε α) :
    m (Lane ε α) :=
  completeFrom isInterrupt attempt lane.trials allowed lane

/-- A number that every turn of the lane makes smaller. -/
def weight (lane : Lane ε α) : Nat :=
  3 * lane.trials.length + lane.sent.length + if lane.finished then 1 else 3

end Lane

/-- What the parent of the workers knows. -/
structure Harvest (α : Type) where
  /-- The results so far, with their trials. -/
  results : List (Int × α)
  /-- The number of trials that have come to their end. -/
  done : Int
deriving DecidableEq, Repr

namespace Harvest

/-- Nothing has arrived. -/
def empty {α : Type} : Harvest α :=
  ⟨[], 0⟩

/-- One more trial has come to its end. -/
def add {α : Type} (harvest : Harvest α) (trial : Int) (found : Option α) : Harvest α where
  results := harvest.results ++ (found.map fun result => (trial, result)).toList
  done := harvest.done + 1

/-- The results in trial order. -/
def sorted {α : Type} (harvest : Harvest α) : List α :=
  (harvest.results.mergeSort fun left right => left.1 ≤ right.1).map Prod.snd

end Harvest

namespace Pool

variable {ε α : Type}

/-- The sum of the weights of all lanes. -/
def weight (lanes : List (Lane ε α)) : Nat :=
  total (lanes.map Lane.weight)

/-- Taking a lane out takes its weight away. -/
theorem weight_eraseIdx
    (lanes : List (Lane ε α))
    (position : Nat)
    (inside : position < lanes.length) :
    weight (lanes.eraseIdx position) + lanes[position].weight = weight lanes := by
  induction lanes generalizing position with
  | nil => exact absurd inside (Nat.not_lt_zero _)
  | cons lane lanes inductionHypothesis =>
      cases position with
      | zero => simp [weight, Nat.add_comm]
      | succ position =>
          have rest := inductionHypothesis position (Nat.lt_of_succ_lt_succ inside)
          simp only [weight, List.eraseIdx_cons_succ, List.map_cons, total_cons,
            List.getElem_cons_succ] at rest ⊢
          omega

/-- Replacing a lane replaces its weight. -/
theorem weight_set
    (lanes : List (Lane ε α))
    (position : Nat)
    (lane : Lane ε α)
    (inside : position < lanes.length) :
    weight (lanes.set position lane) + lanes[position].weight =
      weight lanes + lane.weight := by
  induction lanes generalizing position with
  | nil => exact absurd inside (Nat.not_lt_zero _)
  | cons first lanes inductionHypothesis =>
      cases position with
      | zero =>
          simp only [weight, List.set_cons_zero, List.map_cons, total_cons,
            List.getElem_cons_zero]
          omega
      | succ position =>
          have rest := inductionHypothesis position (Nat.lt_of_succ_lt_succ inside)
          simp only [weight, List.set_cons_succ, List.map_cons, total_cons,
            List.getElem_cons_succ] at rest ⊢
          omega

/-- A lane at the end of the list counts like any other. -/
theorem weight_append (lanes : List (Lane ε α)) (lane : Lane ε α) :
    weight (lanes ++ [lane]) = weight lanes + lane.weight := by
  simp [weight]

/-- Finishing makes a worker that has not finished lighter. -/
theorem weight_finish_lt
    {lane : Lane ε α}
    (last : List (Message ε α))
    (short : last.length ≤ 3 * lane.trials.length)
    (unfinished : lane.finished = false) :
    (lane.finish last).weight < lane.weight := by
  simp [Lane.weight, Lane.finish, unfinished]
  omega

/-- Ending a trial makes a worker that has not finished lighter. -/
theorem weight_record_lt
    {lane : Lane ε α}
    (isInterrupt : ε → Bool)
    {trial : Int}
    {rest : List Int}
    (outcome : Except ε (Option α))
    (next : lane.trials = trial :: rest)
    (unfinished : lane.finished = false) :
    (lane.record isInterrupt trial rest outcome).weight < lane.weight := by
  cases outcome with
  | ok found =>
      simp [Lane.record, Lane.weight, next, unfinished]
      omega
  | error failure =>
      unfold Lane.record
      by_cases interrupt : isInterrupt failure = true
      · simpa [interrupt] using weight_finish_lt [] (by simp) unfinished
      · simpa [interrupt] using
          weight_finish_lt [.fatal trial failure] (by simp [next]; omega) unfinished

/-- What a turn amounts to. -/
inductive Turn (ε α : Type) where
  /-- All workers have reported their end. -/
  | over
  /-- A message is taken; these are the lanes then. -/
  | take (message : Message ε α) (lanes : List (Lane ε α))
  /-- A worker without trials reports its end; these are the lanes then. -/
  | close (lanes : List (Lane ε α))
  /-- A worker makes a trial, whose outcome decides about the lanes then. -/
  | attempt (trial : Int) (resume : Except ε (Option α) → List (Lane ε α))

/--
The turn that a number picks: its half picks a lane, and an odd number prefers a step
of the worker to its first message. A worker that has made a step goes behind the
others; one whose last message is taken leaves.
-/
def turn (isInterrupt : ε → Bool) (lanes : List (Lane ε α)) (pick : Nat) : Turn ε α :=
  let position := pick / 2 % lanes.length
  match lanes[position]? with
  | none => .over
  | some lane =>
      let others := lanes.eraseIdx position
      if lane.finished || (pick % 2 = 0 && !lane.sent.isEmpty) then
        match lane.sent with
        | [] => .close others
        | message :: sent =>
            if lane.finished && sent.isEmpty then
              .take message others
            else
              .take message (lanes.set position { lane with sent })
      else
        match lane.trials with
        | [] => .close (others ++ [lane.finish []])
        | trial :: rest =>
            .attempt trial fun outcome =>
              others ++ [lane.record isInterrupt trial rest outcome]

/-- What is left after a turn weighs less. -/
def Turn.Lighter (limit : Nat) : Turn ε α → Prop
  | .over => True
  | .take _ lanes => weight lanes < limit
  | .close lanes => weight lanes < limit
  | .attempt _ resume => ∀ outcome, weight (resume outcome) < limit

/-- Every turn makes the lanes lighter. -/
theorem turn_lighter
    (isInterrupt : ε → Bool)
    (lanes : List (Lane ε α))
    (pick : Nat) :
    (turn isInterrupt lanes pick).Lighter (weight lanes) := by
  unfold turn
  simp only
  split
  · trivial
  · rename_i lane found
    obtain ⟨inside, same⟩ := List.getElem?_eq_some_iff.1 found
    have erased := weight_eraseIdx lanes (pick / 2 % lanes.length) inside
    rw [same] at erased
    split
    · rename_i taking
      split
      · rename_i nothing
        have positive : 0 < lane.weight := by
          simp only [Lane.weight]
          split <;> omega
        simp only [Turn.Lighter]
        omega
      · rename_i message sent queued
        have lighter : ({ lane with sent } : Lane ε α).weight + 1 = lane.weight := by
          simp only [Lane.weight, queued, List.length_cons]
          omega
        have replaced := weight_set lanes (pick / 2 % lanes.length) { lane with sent } inside
        rw [same] at replaced
        split
        · simp only [Turn.Lighter]
          omega
        · simp only [Turn.Lighter]
          omega
    · rename_i stepping
      have unfinished : lane.finished = false := by
        cases finished : lane.finished with
        | false => rfl
        | true => simp [finished] at stepping
      split
      · rename_i none
        have lighter := weight_finish_lt (ε := ε) (α := α) [] (by simp) unfinished
        simp only [Turn.Lighter, weight_append]
        omega
      · rename_i trial rest next
        intro outcome
        have lighter := weight_record_lt isInterrupt outcome next unfinished
        simp only [weight_append]
        omega

/-- A turn that was picked leaves less weight. -/
theorem lighter_of_turn
    {isInterrupt : ε → Bool}
    {lanes : List (Lane ε α)}
    {pick : Nat}
    {picked : Turn ε α}
    (chosen : turn isInterrupt lanes pick = picked) :
    picked.Lighter (weight lanes) :=
  chosen ▸ turn_lighter isInterrupt lanes pick

set_option linter.unusedVariables false in
/--
Runs workers until all have reported their end or one has failed. The schedule `pick`
gives the turns, and `progress` is told of every trial that has come to its end.
-/
def run
    {m : Type → Type}
    [Monad m]
    (isInterrupt : ε → Bool)
    (pick : m Nat)
    (attempt : Int → m (Except ε (Option α)))
    (progress : Int → m Unit)
    (lanes : List (Lane ε α))
    (harvest : Harvest α) :
    m (Except ε (Harvest α)) := do
  let picked ← pick
  match chosen : turn isInterrupt lanes picked with
  | .over => return .ok harvest
  | .take (.result trial found) lanes => do
      let harvest := harvest.add trial found
      progress harvest.done
      run isInterrupt pick attempt progress lanes harvest
  | .take (.fatal _ failure) _ => return .error failure
  | .take (.done _) lanes => run isInterrupt pick attempt progress lanes harvest
  | .close lanes => run isInterrupt pick attempt progress lanes harvest
  | .attempt trial resume => do
      let outcome ← attempt trial
      run isInterrupt pick attempt progress (resume outcome) harvest
termination_by weight lanes
decreasing_by
  all_goals
    first
      | exact lighter_of_turn chosen
      | exact lighter_of_turn chosen _

/-- All workers before their first step. -/
def start (stop workers : Int) : List (Lane ε α) :=
  (stride 0 workers 1).map fun worker => Lane.start worker stop workers

end Pool

end GrammarCorpus
