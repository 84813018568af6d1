import GrammarCorpus.Generator
import Mathlib.Data.List.Nodup

namespace GrammarCorpus

/-!
# What draws give

A draw has a property if every value that it gives has it, whatever the state of the
source. Properties are carried through the steps that draws are composed of. A draw
that fails gives no value, so it has every property.

What is chosen is always one of the items, and samples hold no other items. That
integers stay between their bounds, and that samples are as large as they should be,
holds for lawful sources; `InTurn` is one of them.

A draw that settles gives one value from every state; where a lawful source can give one
answer only, nothing is left to chance.
-/

namespace Draw

section Steps

variable {σ α β : Type} {draw : Draw σ α} {state : σ}

/-- Behind a step that gives a value the next one goes on. -/
theorem run_bind_of_ok
    {next : α → Draw σ β}
    {value : α}
    (gives : (draw.run.run state).1 = .ok value) :
    (draw >>= next).run.run state = (next value).run.run (draw.run.run state).2 := by
  rw [ExceptT.run_bind, StateT.run_bind]
  rw [show draw.run.run state = (.ok value, (draw.run.run state).2) from Prod.ext gives rfl]
  rfl

/-- Behind a step that fails there is no other. -/
theorem run_bind_of_error
    {next : α → Draw σ β}
    {error : GenerationError}
    (fails : (draw.run.run state).1 = .error error) :
    (draw >>= next).run.run state = (.error error, (draw.run.run state).2) := by
  rw [ExceptT.run_bind, StateT.run_bind]
  rw [show draw.run.run state = (.error error, (draw.run.run state).2) from Prod.ext fails rfl]
  rfl

/-- Where nothing fails, what would meet a failure does not matter. -/
theorem run_tryCatch_of_ok
    {handle : GenerationError → Draw σ α}
    {value : α}
    (gives : (draw.run.run state).1 = .ok value) :
    (tryCatch draw handle).run.run state = draw.run.run state := by
  rw [ExceptT.run_tryCatch, StateT.run_bind]
  rw [show draw.run.run state = (.ok value, (draw.run.run state).2) from Prod.ext gives rfl]
  rfl

/-- A failure is met from the state that it leaves. -/
theorem run_tryCatch_of_error
    {handle : GenerationError → Draw σ α}
    {error : GenerationError}
    (fails : (draw.run.run state).1 = .error error) :
    (tryCatch draw handle).run.run state = (handle error).run.run (draw.run.run state).2 := by
  rw [ExceptT.run_tryCatch, StateT.run_bind]
  rw [show draw.run.run state = (.error error, (draw.run.run state).2) from Prod.ext fails rfl]
  rfl

/-- At positions inside a list there are as many items as positions. -/
theorem length_filterMap_positions
    {items : List α}
    {positions : List Nat}
    (inside : ∀ position ∈ positions, position < items.length) :
    (positions.filterMap (items[·]?)).length = positions.length := by
  rw [List.filterMap_length_eq_length]
  intro position member
  simp [inside position member]

end Steps

end Draw

/-- Every value that a draw gives has a property. -/
def Draw.Gives {σ α : Type} (draw : Draw σ α) (property : α → Prop) : Prop :=
  ∀ state value, (draw.run.run state).1 = .ok value → property value

namespace Draw.Gives

variable {σ α β : Type} {property : α → Prop}

/-- A value that is given has the property. -/
theorem pure {value : α} (holds : property value) :
    (Pure.pure value : Draw σ α).Gives property := by
  intro state other gives
  cases gives
  exact holds

/-- A failure gives no value. -/
theorem throw (error : GenerationError) :
    (MonadExcept.throw error : Draw σ α).Gives property := by
  intro state value gives
  cases gives

/-- The second step may rely on what the first one gives. -/
theorem bind
    {first : Draw σ α}
    {second : α → Draw σ β}
    {conclusion : β → Prop}
    (gives : first.Gives property)
    (continues : ∀ value, property value → (second value).Gives conclusion) :
    (first >>= second).Gives conclusion := by
  intro state result ends
  cases begins : (first.run.run state).1 with
  | error failure =>
      rw [run_bind_of_error begins] at ends
      cases ends
  | ok value =>
      rw [run_bind_of_ok begins] at ends
      exact continues value (gives state value begins) _ result ends

/-- A weaker property is given as well. -/
theorem mono
    {draw : Draw σ α}
    {weaker : α → Prop}
    (gives : draw.Gives property)
    (implies : ∀ value, property value → weaker value) :
    draw.Gives weaker :=
  fun state value ends => implies value (gives state value ends)

/-- Two properties are given together. -/
theorem and
    {draw : Draw σ α}
    {other : α → Prop}
    (gives : draw.Gives property)
    (givesOther : draw.Gives other) :
    draw.Gives fun value => property value ∧ other value :=
  fun state value ends => ⟨gives state value ends, givesOther state value ends⟩

/-- What the source answers, whatever its state. -/
theorem lift
    {question : StateM σ α}
    (answers : ∀ state, property (question.run state).1) :
    Draw.Gives (ExceptT.lift question) property := by
  intro state value ends
  rw [← Except.ok.inj ends]
  exact answers state

/-- A failure is met by a draw that has the property. -/
theorem tryCatch
    {draw : Draw σ α}
    {handle : GenerationError → Draw σ α}
    (gives : draw.Gives property)
    (handles : ∀ error, (handle error).Gives property) :
    Draw.Gives (MonadExcept.tryCatch draw handle) property := by
  intro state result ends
  cases begins : (draw.run.run state).1 with
  | error failure =>
      rw [run_tryCatch_of_error begins] at ends
      exact handles failure _ result ends
  | ok value =>
      rw [run_tryCatch_of_ok begins] at ends
      exact gives state result ends

end Draw.Gives

namespace Draw

variable {σ α : Type} [RandomSource σ]

/-- An integer that a lawful source draws lies between the bounds. -/
theorem between_gives
    [LawfulRandomSource σ]
    {least greatest : Int}
    (ordered : least ≤ greatest) :
    (between least greatest : Draw σ Int).Gives fun value =>
      least ≤ value ∧ value ≤ greatest := by
  have answers : Gives (ExceptT.lift (RandomSource.between? least greatest) : Draw σ _)
      fun answer => ∃ value, answer = some value ∧ least ≤ value ∧ value ≤ greatest :=
    .lift fun state => LawfulRandomSource.between?_mem state ordered
  refine answers.bind ?_
  rintro answer ⟨value, rfl, bounds⟩
  exact .pure bounds

/-- What is chosen is one of the items. -/
theorem choose_gives (items : List α) :
    (choose items : Draw σ α).Gives fun item => item ∈ items := by
  have answers : Gives (ExceptT.lift (RandomSource.position? items.length) : Draw σ _)
      fun _ => True :=
    .lift fun _ => trivial
  refine answers.bind ?_
  intro answer _
  cases chosen : answer.bind (items[·]?) with
  | none => exact .throw _
  | some item =>
      obtain ⟨position, -, found⟩ := Option.bind_eq_some_iff.1 chosen
      exact .pure (List.mem_of_getElem? found)

/-- A sample has no other items than those given. -/
theorem sample_gives_subset (items : List α) (count : Nat) :
    (sample items count : Draw σ (List α)).Gives fun drawn => drawn ⊆ items := by
  have answers :
      Gives (ExceptT.lift (RandomSource.positions? items.length count) : Draw σ _)
        fun _ => True :=
    .lift fun _ => trivial
  refine answers.bind ?_
  intro answer _
  cases answer with
  | none => exact .throw _
  | some positions =>
      refine .pure ?_
      intro item member
      obtain ⟨position, -, found⟩ := List.mem_filterMap.1 member
      exact List.mem_of_getElem? found

/-- A lawful source draws as many items as were asked for, if there are so many. -/
theorem sample_gives_length
    [LawfulRandomSource σ]
    {items : List α}
    {count : Nat}
    (enough : count ≤ items.length) :
    (sample items count : Draw σ (List α)).Gives fun drawn =>
      drawn.length = count ∧ (items.Nodup → drawn.Nodup) := by
  have answers :
      Gives (ExceptT.lift (RandomSource.positions? items.length count) : Draw σ _)
        fun answer => ∃ positions, answer = some positions ∧
          positions.length = count ∧
          positions.Nodup ∧
          ∀ position ∈ positions, position < items.length :=
    .lift fun state => LawfulRandomSource.positions?_nodup state enough
  refine answers.bind ?_
  rintro answer ⟨positions, rfl, length, distinct, inside⟩
  refine .pure ⟨?_, ?_⟩
  · rw [length_filterMap_positions inside, length]
  · intro itemsDistinct
    refine distinct.filterMap ?_
    intro position other item found foundToo
    obtain ⟨positionInside, -⟩ := List.getElem?_eq_some_iff.1 found
    exact (List.getElem?_inj positionInside itemsDistinct).1 (found.trans foundToo.symm)

end Draw

/-- A draw gives the same value whatever the state of the source. -/
def Draw.Settles {σ α : Type} (draw : Draw σ α) (value : α) : Prop :=
  ∀ state, (draw.run.run state).1 = .ok value

namespace Draw.Settles

variable {σ α β : Type}

/-- A value is given whatever the state is. -/
theorem pure (value : α) : (Pure.pure value : Draw σ α).Settles value :=
  fun _ => rfl

/-- The first step may give any value that the second one settles. -/
theorem bind_of_exists
    {first : Draw σ α}
    {second : α → Draw σ β}
    {result : β}
    (any : ∀ state, ∃ value,
      (first.run.run state).1 = .ok value ∧ (second value).Settles result) :
    (first >>= second).Settles result := by
  intro state
  obtain ⟨value, given, settles⟩ := any state
  rw [run_bind_of_ok given]
  exact settles _

/-- The second step goes on with the value that the first one always gives. -/
theorem bind
    {first : Draw σ α}
    {second : α → Draw σ β}
    {value : α}
    {result : β}
    (settles : first.Settles value)
    (continues : (second value).Settles result) :
    (first >>= second).Settles result :=
  bind_of_exists fun state => ⟨value, settles state, continues⟩

/-- Where nothing fails, what would meet a failure does not matter. -/
theorem tryCatch
    {draw : Draw σ α}
    {handle : GenerationError → Draw σ α}
    {value : α}
    (settles : draw.Settles value) :
    Draw.Settles (MonadExcept.tryCatch draw handle) value := by
  intro state
  rw [run_tryCatch_of_ok (settles state), settles state]

end Draw.Settles

namespace Draw

variable {σ α : Type} [RandomSource σ] [LawfulRandomSource σ]
variable {items : List α} {item : α}

/-- There is one integer between a bound and itself. -/
theorem between_settles (bound : Int) : (between bound bound : Draw σ Int).Settles bound := by
  refine .bind_of_exists fun state => ?_
  obtain ⟨value, drawn, least, greatest⟩ :=
    LawfulRandomSource.between?_mem state (Int.le_refl bound)
  obtain rfl := Int.le_antisymm greatest least
  exact ⟨_, congrArg Except.ok drawn, .pure _⟩

/-- Of items that are all the same, that one is chosen. -/
theorem choose_settles
    (some : items ≠ [])
    (same : ∀ other ∈ items, other = item) :
    (choose items : Draw σ α).Settles item := by
  refine .bind_of_exists fun state => ?_
  obtain ⟨position, drawn, inside⟩ :=
    LawfulRandomSource.position?_lt state (List.length_pos_of_ne_nil some)
  have chosen : items[position]? = Option.some item := by
    rw [List.getElem?_eq_getElem inside, same _ (List.getElem_mem inside)]
  refine ⟨_, congrArg Except.ok drawn, ?_⟩
  rw [Option.bind_some, chosen]
  exact .pure item

/-- A sample of items that are all the same has nothing else in it. -/
theorem sample_settles
    {count : Nat}
    (enough : count ≤ items.length)
    (same : ∀ other ∈ items, other = item) :
    (sample items count : Draw σ (List α)).Settles (List.replicate count item) := by
  refine .bind_of_exists fun state => ?_
  obtain ⟨positions, drawn, length, -, inside⟩ :=
    LawfulRandomSource.positions?_nodup state enough
  have sampled : positions.filterMap (items[·]?) = List.replicate count item := by
    rw [List.eq_replicate_iff]
    refine ⟨?_, ?_⟩
    · rw [length_filterMap_positions inside, length]
    · intro other member
      obtain ⟨position, -, found⟩ := List.mem_filterMap.1 member
      exact same other (List.mem_of_getElem? found)
  refine ⟨_, congrArg Except.ok drawn, ?_⟩
  rw [← sampled]
  exact .pure _

end Draw

/-- A source that takes the possible answers in turn. -/
structure InTurn where
  turn : Nat
deriving DecidableEq, Repr

namespace InTurn

/-- The answer whose turn it is. -/
def answer {α : Type} (answers : Nat → α) : StateM InTurn α := fun source =>
  (answers source.turn, { turn := source.turn + 1 })

end InTurn

instance : RandomSource InTurn where
  between? least greatest := InTurn.answer fun turn =>
    if least ≤ greatest then some (least + turn % (greatest - least + 1)) else none
  position? length := InTurn.answer fun turn =>
    if 0 < length then some (turn % length) else none
  positions? length count := InTurn.answer fun _ =>
    if count ≤ length then some (List.range count) else none

instance : LawfulRandomSource InTurn where
  between?_mem source least greatest ordered := by
    have positive : 0 < greatest - least + 1 := by omega
    have nonnegative := Int.emod_nonneg source.turn (Int.ne_of_gt positive)
    have below := Int.emod_lt_of_pos source.turn positive
    exact ⟨_, if_pos ordered, by omega, by omega⟩
  position?_lt source length positive :=
    ⟨_, if_pos positive, Nat.mod_lt source.turn positive⟩
  positions?_nodup source length count enough := by
    refine ⟨_, if_pos enough, List.length_range, List.nodup_range, ?_⟩
    intro position member
    exact Nat.lt_of_lt_of_le (List.mem_range.1 member) enough

end GrammarCorpus
