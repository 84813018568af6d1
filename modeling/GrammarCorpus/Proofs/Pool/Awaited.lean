import GrammarCorpus.Proofs.Pool.Turn
import Mathlib.Data.List.Perm.Basic

namespace GrammarCorpus

open List

/-!
# Messages that are awaited

When the outcome of a trial is settled by its number, everything that a worker will
ever put into the queue is settled as well: the messages that wait there, and the
script of the trials it has still to make. `Pool.awaited` collects these messages
over all lanes.

A turn of the pool takes one awaited message or leaves them as they are, up to
their order. So whatever the schedule, the parent of the workers is offered the same
messages in the end.
-/

namespace Message

variable {ε α : Type}

/-- The result that a message reports, with its trial. -/
def result? : Message ε α → Option (Int × α)
  | result trial found => found.map fun value => (trial, value)
  | fatal _ _ => none
  | done _ => none

end Message

namespace Lane

variable {ε α : Type}

/--
All messages of a worker that has these trials to make: results up to the first
trial that fails, a report of that failure unless it is an interrupt, and the end.
-/
def script
    (isInterrupt : ε → Bool)
    (outcome : Int → Except ε (Option α))
    (worker : Int) :
    List Int → List (Message ε α)
  | [] => [.done worker]
  | trial :: rest =>
      match outcome trial with
      | .ok found => .result trial found :: script isInterrupt outcome worker rest
      | .error failure =>
          if isInterrupt failure then [.done worker] else [.fatal trial failure, .done worker]

/-- The messages of a lane that wait, and those that its worker has still to put. -/
def future
    (isInterrupt : ε → Bool)
    (outcome : Int → Except ε (Option α))
    (lane : Lane ε α) :
    List (Message ε α) :=
  lane.sent ++
    if lane.finished then [] else script isInterrupt outcome lane.worker lane.trials

variable {isInterrupt : ε → Bool} {outcome : Int → Except ε (Option α)} {lane : Lane ε α}

/-- A worker without trials reports its end as it was bound to. -/
theorem future_finish_nil
    (unfinished : lane.finished = false)
    (idle : lane.trials = []) :
    (lane.finish []).future isInterrupt outcome = lane.future isInterrupt outcome := by
  simp [future, finish, script, unfinished, idle]

/-- A worker that has made a trial is bound to the same messages as before. -/
theorem future_record
    {trial : Int}
    {rest : List Int}
    (unfinished : lane.finished = false)
    (next : lane.trials = trial :: rest) :
    (lane.record isInterrupt trial rest (outcome trial)).future isInterrupt outcome =
      lane.future isInterrupt outcome := by
  cases ended : outcome trial with
  | ok found =>
      simp [record, future, script, unfinished, next, ended]
  | error failure =>
      by_cases interrupt : isInterrupt failure = true
      · simp [record, future, finish, script, unfinished, next, ended, interrupt]
      · simp [record, future, finish, script, unfinished, next, ended, interrupt]

/-- The trials that are left after a trial has been made. -/
theorem trials_record_sublist
    (isInterrupt : ε → Bool)
    (lane : Lane ε α)
    (trial : Int)
    (rest : List Int)
    (ended : Except ε (Option α)) :
    (lane.record isInterrupt trial rest ended).trials <+ rest := by
  cases ended with
  | ok found =>
      exact .refl rest
  | error failure =>
      by_cases interrupt : isInterrupt failure = true
      · simp [record, finish, interrupt]
      · simp [record, finish, interrupt]

end Lane

namespace Pool

variable {ε α : Type}

/-- The messages that the parent may still come to see. -/
def awaited
    (isInterrupt : ε → Bool)
    (outcome : Int → Except ε (Option α))
    (lanes : List (Lane ε α)) :
    List (Message ε α) :=
  lanes.flatMap (Lane.future isInterrupt outcome)

/-- The trials that have not been made. -/
def outstanding (lanes : List (Lane ε α)) : List Int :=
  lanes.flatMap Lane.trials

variable {isInterrupt : ε → Bool} {outcome : Int → Except ε (Option α)}

/-- The order of the lanes matters to the messages only up to their order. -/
theorem awaited_perm
    {left right : List (Lane ε α)}
    (same : left ~ right) :
    awaited isInterrupt outcome left ~ awaited isInterrupt outcome right :=
  same.flatMap_right _

/-- The order of the lanes matters to the trials only up to their order. -/
theorem outstanding_perm
    {left right : List (Lane ε α)}
    (same : left ~ right) :
    outstanding left ~ outstanding right :=
  same.flatMap_right _

/-- What a turn does to the awaited messages and to the trials that are left. -/
def Turn.Keeps
    (isInterrupt : ε → Bool)
    (outcome : Int → Except ε (Option α))
    (lanes : List (Lane ε α)) :
    Turn ε α → Prop
  | .over =>
      awaited isInterrupt outcome lanes = []
  | .take message after =>
      awaited isInterrupt outcome lanes ~
          message :: awaited isInterrupt outcome after ∧
        outstanding after <+~ outstanding lanes
  | .close after =>
      awaited isInterrupt outcome lanes ~ awaited isInterrupt outcome after ∧
        outstanding after <+~ outstanding lanes
  | .attempt trial resume =>
      awaited isInterrupt outcome lanes ~
          awaited isInterrupt outcome (resume (outcome trial)) ∧
        trial :: outstanding (resume (outcome trial)) <+~ outstanding lanes

/-- The messages beside a lane of a pool, with those of the lane in front. -/
theorem awaited_split (before after : List (Lane ε α)) (lane : Lane ε α) :
    awaited isInterrupt outcome (before ++ lane :: after) ~
      lane.future isInterrupt outcome ++ awaited isInterrupt outcome (before ++ after) :=
  awaited_perm perm_middle

/-- The trials beside a lane of a pool, with those of the lane in front. -/
theorem outstanding_split (before after : List (Lane ε α)) (lane : Lane ε α) :
    outstanding (before ++ lane :: after) ~
      lane.trials ++ outstanding (before ++ after) :=
  outstanding_perm perm_middle

/-- The messages of a pool whose last lane is put behind the others. -/
theorem awaited_snoc (others : List (Lane ε α)) (lane : Lane ε α) :
    awaited isInterrupt outcome (others ++ [lane]) ~
      lane.future isInterrupt outcome ++ awaited isInterrupt outcome others :=
  awaited_perm (perm_append_singleton _ _)

/-- The trials of a pool whose last lane is put behind the others. -/
theorem outstanding_snoc (others : List (Lane ε α)) (lane : Lane ε α) :
    outstanding (others ++ [lane]) ~ lane.trials ++ outstanding others :=
  outstanding_perm (perm_append_singleton _ _)

/-- Without a lane, no more trials are left than with it. -/
theorem outstanding_leave (before after : List (Lane ε α)) (lane : Lane ε α) :
    outstanding (before ++ after) <+~ outstanding (before ++ lane :: after) :=
  (List.sublist_append_right _ _).subperm.trans
    (outstanding_split before after lane).symm.subperm

/-- Whatever can happen takes one awaited message or keeps them all. -/
theorem Possible.keeps
    {lanes : List (Lane ε α)}
    {next : Turn ε α}
    (possible : Possible isInterrupt lanes next) :
    next.Keeps isInterrupt outcome lanes := by
  cases possible with
  | nobody =>
      rfl
  | @takeLast before after lane message finished waiting =>
      refine ⟨(awaited_split before after lane).trans ?_, outstanding_leave before after lane⟩
      simp [Lane.future, finished, waiting]
  | @take before after lane message sent waiting stays =>
      constructor
      · calc
          awaited isInterrupt outcome (before ++ lane :: after)
            ~ lane.future isInterrupt outcome ++
                awaited isInterrupt outcome (before ++ after) :=
              awaited_split before after lane
          _ = message :: (({ lane with sent } : Lane ε α).future isInterrupt outcome ++
                awaited isInterrupt outcome (before ++ after)) := by
              simp [Lane.future, waiting]
          _ ~ message ::
                awaited isInterrupt outcome (before ++ { lane with sent } :: after) :=
              (awaited_split before after { lane with sent }).symm.cons message
      · exact ((outstanding_split before after { lane with sent }).trans
          (outstanding_split before after lane).symm).subperm
  | @leave before after lane finished silent =>
      refine ⟨(awaited_split before after lane).trans ?_, outstanding_leave before after lane⟩
      simp [Lane.future, finished, silent]
  | @finish before after lane unfinished idle =>
      constructor
      · refine (awaited_split before after lane).trans ?_
        rw [← Lane.future_finish_nil unfinished idle]
        exact (awaited_snoc (before ++ after) (lane.finish [])).symm
      · refine (outstanding_snoc (before ++ after) (lane.finish [])).subperm.trans ?_
        exact outstanding_leave before after lane
  | @attempt before after lane trial rest unfinished next =>
      have shorter :=
        Lane.trials_record_sublist isInterrupt lane trial rest (outcome trial)
      constructor
      · refine (awaited_split before after lane).trans ?_
        rw [← Lane.future_record unfinished next]
        exact (awaited_snoc (before ++ after) _).symm
      · refine ((outstanding_snoc (before ++ after) _).cons trial).subperm.trans ?_
        refine Subperm.trans ?_ (outstanding_split before after lane).symm.subperm
        rw [next, List.cons_append]
        exact ((shorter.append_right _).cons_cons trial).subperm

/-- What a turn that was picked takes and keeps. -/
theorem keeps_of_turn
    {isInterrupt : ε → Bool}
    {lanes : List (Lane ε α)}
    {pick : Nat}
    {picked : Turn ε α}
    (outcome : Int → Except ε (Option α))
    (chosen : turn isInterrupt lanes pick = picked) :
    picked.Keeps isInterrupt outcome lanes :=
  chosen ▸ (possible_turn isInterrupt lanes pick).keeps

end Pool

end GrammarCorpus
