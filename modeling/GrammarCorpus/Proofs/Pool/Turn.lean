import GrammarCorpus.Corpus.Pool
import Mathlib.Data.List.Basic

namespace GrammarCorpus

/-!
# Turns of a pool

`Pool.Possible` lists what can happen in a pool: any lane's first message may be
taken, and any worker that has not come to its end may make its next step. A turn is
always possible, and whatever is possible is the turn that some number picks. So the
schedules of a pool are exactly its interleavings.
-/

namespace Pool

variable {ε α : Type}

/-- What can happen next. -/
inductive Possible (isInterrupt : ε → Bool) : List (Lane ε α) → Turn ε α → Prop where
  /-- No lane is left. -/
  | nobody : Possible isInterrupt [] .over
  /-- The last message of a worker that has come to its end is taken. -/
  | takeLast
      {before after : List (Lane ε α)}
      {lane : Lane ε α}
      {message : Message ε α} :
      lane.finished = true →
      lane.sent = [message] →
      Possible isInterrupt (before ++ lane :: after) (.take message (before ++ after))
  /-- The first message of a lane is taken, which stays. -/
  | take
      {before after : List (Lane ε α)}
      {lane : Lane ε α}
      {message : Message ε α}
      {sent : List (Message ε α)} :
      lane.sent = message :: sent →
      (lane.finished && sent.isEmpty) = false →
      Possible isInterrupt (before ++ lane :: after)
        (.take message (before ++ { lane with sent } :: after))
  /-- A lane that has come to its end without a word leaves. -/
  | leave
      {before after : List (Lane ε α)}
      {lane : Lane ε α} :
      lane.finished = true →
      lane.sent = [] →
      Possible isInterrupt (before ++ lane :: after) (.close (before ++ after))
  /-- A worker without trials reports its end. -/
  | finish
      {before after : List (Lane ε α)}
      {lane : Lane ε α} :
      lane.finished = false →
      lane.trials = [] →
      Possible isInterrupt (before ++ lane :: after)
        (.close (before ++ after ++ [lane.finish []]))
  /-- A worker makes its next trial. -/
  | attempt
      {before after : List (Lane ε α)}
      {lane : Lane ε α}
      {trial : Int}
      {rest : List Int} :
      lane.finished = false →
      lane.trials = trial :: rest →
      Possible isInterrupt (before ++ lane :: after)
        (.attempt trial fun outcome =>
          before ++ after ++ [lane.record isInterrupt trial rest outcome])

/-- The lane at a position, between those before and those after it. -/
private theorem exists_split
    {lanes : List (Lane ε α)}
    {lane : Lane ε α}
    {position : Nat}
    (found : lanes[position]? = some lane) :
    ∃ before after, lanes = before ++ lane :: after ∧ before.length = position := by
  obtain ⟨inside, same⟩ := List.getElem?_eq_some_iff.1 found
  refine ⟨lanes.take position, lanes.drop (position + 1), ?_, ?_⟩
  · rw [← same, ← List.drop_eq_getElem_cons inside, List.take_append_drop]
  · rw [List.length_take]
    omega

/-- The lanes beside one of them. -/
private theorem eraseIdx_split (before after : List (Lane ε α)) (lane : Lane ε α) :
    (before ++ lane :: after).eraseIdx before.length = before ++ after := by
  rw [List.eraseIdx_append_of_length_le (Nat.le_refl _)]
  simp

/-- The lanes with another one in the place of one of them. -/
private theorem set_split (before after : List (Lane ε α)) (lane other : Lane ε α) :
    (before ++ lane :: after).set before.length other = before ++ other :: after := by
  simp

/-- Every turn is possible. -/
theorem possible_turn
    (isInterrupt : ε → Bool)
    (lanes : List (Lane ε α))
    (pick : Nat) :
    Possible isInterrupt lanes (turn isInterrupt lanes pick) := by
  unfold turn
  simp only
  split
  · rename_i nothingFound
    cases lanes with
    | nil =>
        exact .nobody
    | cons lane others =>
        have short := List.getElem?_eq_none_iff.1 nothingFound
        exact absurd (Nat.mod_lt _ (by simp)) (Nat.not_lt.2 short)
  · rename_i lane found
    obtain ⟨before, after, shape, here⟩ := exists_split found
    rw [← here, shape, eraseIdx_split]
    split
    · rename_i taking
      split
      · rename_i silent
        exact .leave (by simpa [silent] using taking) silent
      · rename_i message sent waiting
        split
        · rename_i last
          obtain ⟨finished, alone⟩ := Bool.and_eq_true_iff.1 last
          exact .takeLast finished (by rw [waiting, List.isEmpty_iff.1 alone])
        · rename_i stays
          rw [set_split]
          exact .take waiting (by simpa using stays)
    · rename_i stepping
      have unfinished : lane.finished = false := by
        cases finished : lane.finished with
        | false => rfl
        | true => simp [finished] at stepping
      split
      · rename_i idle
        exact .finish unfinished idle
      · rename_i trial rest next
        exact .attempt unfinished next

/-- A number whose half is the position of a lane picks that lane. -/
private theorem position_split
    (before after : List (Lane ε α))
    (lane : Lane ε α)
    {pick : Nat}
    (half : pick / 2 = before.length) :
    pick / 2 % (before ++ lane :: after).length = before.length := by
  rw [half]
  exact Nat.mod_eq_of_lt (by simp)

/-- Whatever is possible is picked by some number. -/
theorem exists_pick
    {isInterrupt : ε → Bool}
    {lanes : List (Lane ε α)}
    {next : Turn ε α}
    (possible : Possible isInterrupt lanes next) :
    ∃ pick, turn isInterrupt lanes pick = next := by
  -- An even number prefers the lane's first message, an odd one the worker's step.
  have even (before : List (Lane ε α)) : 2 * before.length / 2 = before.length := by omega
  have odd (before : List (Lane ε α)) : (2 * before.length + 1) / 2 = before.length := by
    omega
  cases possible with
  | nobody =>
      exact ⟨0, rfl⟩
  | @takeLast before after lane message finished waiting =>
      refine ⟨2 * before.length, ?_⟩
      simp only [turn, position_split before after lane (even before)]
      simp [eraseIdx_split, finished, waiting]
  | @take before after lane message sent waiting stays =>
      refine ⟨2 * before.length, ?_⟩
      simp only [turn, position_split before after lane (even before)]
      simp [eraseIdx_split, waiting]
      simpa using stays
  | @leave before after lane finished silent =>
      refine ⟨2 * before.length, ?_⟩
      simp only [turn, position_split before after lane (even before)]
      simp [eraseIdx_split, finished, silent]
  | @finish before after lane unfinished idle =>
      refine ⟨2 * before.length + 1, ?_⟩
      simp only [turn, position_split before after lane (odd before)]
      simp [eraseIdx_split, unfinished, idle]
  | @attempt before after lane trial rest unfinished next =>
      refine ⟨2 * before.length + 1, ?_⟩
      simp only [turn, position_split before after lane (odd before)]
      simp [eraseIdx_split, unfinished, next]

end Pool

end GrammarCorpus
