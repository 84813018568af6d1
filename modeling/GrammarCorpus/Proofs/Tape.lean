import GrammarCorpus.Proofs.Sampling

namespace GrammarCorpus

/-!
# Draws with prepared answers

A tape holds answers in the order in which they are to be given. An answer that is in the range
of the question is given, and any other is passed over for one that is, so that a tape is a
lawful source. A draw can end with a result if some answers make it do so and are used up by it;
what stands behind them on the tape is left for later draws.
-/

/-- An answer that was prepared. -/
inductive Answer where
  | integer (value : Int)
  | position (value : Nat)
  | positions (values : List Nat)
deriving DecidableEq, Repr

namespace Answer

/-- The integer, if it lies between bounds. -/
def between? (least greatest : Int) : Answer → Option Int
  | integer value => if least ≤ value ∧ value ≤ greatest then some value else none
  | _ => none

/-- The position, if it is one of so many. -/
def position? (length : Nat) : Answer → Option Nat
  | position value => if value < length then some value else none
  | _ => none

/-- The positions, if they are distinct and as many as asked for. -/
def positions? (length count : Nat) : Answer → Option (List Nat)
  | positions values =>
      if values.length = count ∧ values.Nodup ∧ ∀ value ∈ values, value < length then
        some values
      else
        none
  | _ => none

variable {answer : Answer}

/-- An integer that is given lies between the bounds. -/
theorem between?_mem
    {least greatest value : Int}
    (given : answer.between? least greatest = some value) :
    least ≤ value ∧ value ≤ greatest := by
  cases answer with
  | integer _ =>
      obtain ⟨bounds, same⟩ := Option.ite_none_right_eq_some.1 given
      exact Option.some.inj same ▸ bounds
  | _ => cases given

/-- A position that is given is one of so many. -/
theorem position?_lt
    {length value : Nat}
    (given : answer.position? length = some value) :
    value < length := by
  cases answer with
  | position _ =>
      obtain ⟨inside, same⟩ := Option.ite_none_right_eq_some.1 given
      exact Option.some.inj same ▸ inside
  | _ => cases given

/-- Positions that are given are distinct and as many as asked for. -/
theorem positions?_nodup
    {length count : Nat}
    {values : List Nat}
    (given : answer.positions? length count = some values) :
    values.length = count ∧ values.Nodup ∧ ∀ value ∈ values, value < length := by
  cases answer with
  | positions _ =>
      obtain ⟨holds, same⟩ := Option.ite_none_right_eq_some.1 given
      exact Option.some.inj same ▸ holds
  | _ => cases given

end Answer

/-- A source whose answers were prepared. -/
structure Tape where
  answers : List Answer
deriving DecidableEq, Repr

namespace Tape

/-- Takes the next answer. If it does not fit, another one is given in its place. -/
def take {α : Type} (fits : Answer → Option α) (otherwise : Option α) :
    StateM Tape (Option α) := fun tape =>
  ((tape.answers.head?.bind fits).or otherwise, { answers := tape.answers.tail })

section Taking

variable {α : Type} {fits : Answer → Option α} {value : α}

/-- What holds of all that fits, and of what is given otherwise, holds of what is given. -/
theorem exists_take
    {property : α → Prop}
    (ofFit : ∀ {answer other}, fits answer = some other → property other)
    (ofOther : property value)
    (tape : Tape) :
    ∃ given, ((take fits (some value)).run tape).1 = some given ∧ property given := by
  change ∃ given, (tape.answers.head?.bind fits).or (some value) = some given ∧ property given
  cases found : tape.answers.head?.bind fits with
  | none => exact ⟨value, rfl, ofOther⟩
  | some other =>
      obtain ⟨answer, -, isFit⟩ := Option.bind_eq_some_iff.1 found
      exact ⟨other, rfl, ofFit isFit⟩

/-- An answer in front that fits is given. -/
theorem run_take_cons
    {answer : Answer}
    (isFit : fits answer = some value)
    (otherwise : Option α)
    (rest : List Answer) :
    (take fits otherwise).run ⟨answer :: rest⟩ = (some value, ⟨rest⟩) := by
  change ((some answer).bind fits |>.or otherwise, (⟨rest⟩ : Tape)) = _
  rw [Option.bind_some, isFit, Option.some_or]

end Taking

end Tape

instance : RandomSource Tape where
  between? least greatest :=
    Tape.take (Answer.between? least greatest) (if least ≤ greatest then some least else none)
  position? length :=
    Tape.take (Answer.position? length) (if 0 < length then some 0 else none)
  positions? length count :=
    Tape.take (Answer.positions? length count)
      (if count ≤ length then some (List.range count) else none)

instance : LawfulRandomSource Tape where
  between?_mem tape least greatest ordered := by
    change ∃ value, ((Tape.take _ (if least ≤ greatest then _ else _)).run tape).1 = _ ∧ _
    rw [if_pos ordered]
    exact Tape.exists_take Answer.between?_mem ⟨Int.le_refl _, ordered⟩ tape
  position?_lt tape length positive := by
    change ∃ position, ((Tape.take _ (if 0 < length then _ else _)).run tape).1 = _ ∧ _
    rw [if_pos positive]
    exact Tape.exists_take Answer.position?_lt positive tape
  positions?_nodup tape length count enough := by
    change ∃ positions, ((Tape.take _ (if count ≤ length then _ else _)).run tape).1 = _ ∧ _
    rw [if_pos enough]
    refine Tape.exists_take Answer.positions?_nodup ?_ tape
    refine ⟨List.length_range, List.nodup_range, fun position member => ?_⟩
    exact Nat.lt_of_lt_of_le (List.mem_range.1 member) enough

/-- Some answers make a draw end with a result, and are used up by it. -/
def Draw.CanEnd {α : Type} (draw : Draw Tape α) (result : Except GenerationError α) : Prop :=
  ∃ answers, ∀ rest, draw.run.run ⟨answers ++ rest⟩ = (result, ⟨rest⟩)

namespace Draw.CanEnd

variable {α β : Type} {draw : Draw Tape α} {next : α → Draw Tape β} {value : α}
variable {result : Except GenerationError β}

/-- A value needs no answers. -/
theorem pure (value : α) : (Pure.pure value : Draw Tape α).CanEnd (.ok value) :=
  ⟨[], fun _ => rfl⟩

/-- A failure needs no answers. -/
theorem throw (error : GenerationError) :
    (MonadExcept.throw error : Draw Tape α).CanEnd (.error error) :=
  ⟨[], fun _ => rfl⟩

/-- The answers for the second step stand behind those for the first. -/
theorem bind (first : draw.CanEnd (.ok value)) (second : (next value).CanEnd result) :
    (draw >>= next).CanEnd result := by
  obtain ⟨answers, begins⟩ := first
  obtain ⟨more, ends⟩ := second
  refine ⟨answers ++ more, fun rest => ?_⟩
  rw [List.append_assoc, ExceptT.run_bind, StateT.run_bind, begins]
  exact ends rest

/-- Behind a failure there is no second step. -/
theorem bind_error {error : GenerationError} (first : draw.CanEnd (.error error)) :
    (draw >>= next).CanEnd (.error error) := by
  obtain ⟨answers, fails⟩ := first
  refine ⟨answers, fun rest => ?_⟩
  rw [ExceptT.run_bind, StateT.run_bind, fails]
  rfl

/-- Where nothing fails, what would meet a failure does not matter. -/
theorem tryCatch
    {handle : GenerationError → Draw Tape α}
    (ends : draw.CanEnd (.ok value)) :
    Draw.CanEnd (MonadExcept.tryCatch draw handle) (.ok value) := by
  obtain ⟨answers, gives⟩ := ends
  refine ⟨answers, fun rest => ?_⟩
  rw [ExceptT.run_tryCatch, StateT.run_bind, gives]
  rfl

/-- A failure is met by what comes in its place. -/
theorem tryCatch_error
    {handle : GenerationError → Draw Tape α}
    {error : GenerationError}
    {instead : Except GenerationError α}
    (fails : draw.CanEnd (.error error))
    (meets : (handle error).CanEnd instead) :
    Draw.CanEnd (MonadExcept.tryCatch draw handle) instead := by
  obtain ⟨answers, ends⟩ := fails
  obtain ⟨more, goesOn⟩ := meets
  refine ⟨answers ++ more, fun rest => ?_⟩
  rw [List.append_assoc, ExceptT.run_tryCatch, StateT.run_bind, ends]
  exact goesOn rest

/-- An answer that is given to a question. -/
theorem lift
    {question : StateM Tape α}
    (answer : Answer)
    (answered : ∀ rest, question.run ⟨answer :: rest⟩ = (value, ⟨rest⟩)) :
    Draw.CanEnd (ExceptT.lift question) (.ok value) := by
  refine ⟨[answer], fun rest => ?_⟩
  rw [ExceptT.run_lift]
  change (Except.ok (question.run ⟨answer :: rest⟩).1, (question.run ⟨answer :: rest⟩).2) = _
  rw [answered]

/-- A draw that can end so does, on the tape of its answers. -/
theorem exists_tape
    {result : Except GenerationError α}
    (ends : draw.CanEnd result) :
    ∃ tape, (draw.run.run tape).1 = result := by
  obtain ⟨answers, given⟩ := ends
  refine ⟨⟨answers ++ []⟩, ?_⟩
  rw [given]

end Draw.CanEnd

namespace Draw

variable {α : Type} {items : List α}

/-- Any integer between the bounds can be drawn. -/
theorem between_canEnd
    {least greatest value : Int}
    (aboveLeast : least ≤ value)
    (belowGreatest : value ≤ greatest) :
    (between least greatest : Draw Tape Int).CanEnd (.ok value) := by
  have fits : Answer.between? least greatest (.integer value) = some value :=
    if_pos ⟨aboveLeast, belowGreatest⟩
  have answered : CanEnd (ExceptT.lift (RandomSource.between? least greatest))
      (.ok (some value)) :=
    .lift (.integer value) (Tape.run_take_cons fits _)
  exact answered.bind (.pure value)

/-- Any item can be chosen. -/
theorem choose_canEnd {item : α} (member : item ∈ items) :
    (choose items : Draw Tape α).CanEnd (.ok item) := by
  obtain ⟨position, inside, found⟩ := List.mem_iff_getElem.1 member
  have fits : Answer.position? items.length (.position position) = some position :=
    if_pos inside
  have answered : CanEnd (ExceptT.lift (RandomSource.position? items.length))
      (.ok (some position)) :=
    .lift (.position position) (Tape.run_take_cons fits _)
  refine answered.bind ?_
  simp only [Option.bind_some, List.getElem?_eq_getElem inside, found]
  exact .pure item

/-- From no items none can be chosen. -/
theorem choose_canEnd_nil :
    (choose [] : Draw Tape α).CanEnd (.error .nothingToChoose) := by
  have answered : CanEnd (ExceptT.lift (RandomSource.position? 0)) (.ok none) :=
    .lift (.position 0) fun rest => rfl
  exact answered.bind (.throw _)

/-- Any of the items can be drawn, in any order. -/
theorem sample_canEnd {drawn : List α} (isDrawn : drawn.Subperm items) :
    (sample items drawn.length : Draw Tape (List α)).CanEnd (.ok drawn) := by
  obtain ⟨positions, distinct, inside, found⟩ := subperm_iff_exists_positions.1 isDrawn
  have length : positions.length = drawn.length := by
    rw [← found, length_filterMap_positions inside]
  have fits : Answer.positions? items.length drawn.length (.positions positions) =
      some positions :=
    if_pos ⟨length, distinct, inside⟩
  have answered : CanEnd (ExceptT.lift (RandomSource.positions? items.length drawn.length))
      (.ok (some positions)) :=
    .lift (.positions positions) (Tape.run_take_cons fits _)
  refine answered.bind ?_
  rw [← found]
  exact .pure _

end Draw

end GrammarCorpus
