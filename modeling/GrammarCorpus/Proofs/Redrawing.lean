import GrammarCorpus.Proofs.Failure

namespace GrammarCorpus

/-!
# Drawing again

A draw can be made any number of times on one stream, and what it ends with each time does not
depend on what is wanted. Drawing again until a value is accepted takes the first value that is,
and leaves the stream right behind it. The times that are allowed are used up exactly if every one
of them gives a value and none is accepted. A draw that fails before there is an accepted value is
the end as well.

The alternatives of a rule are drawn in this way one after the other, each until it may join those
before it.
-/

namespace Draw

section Repetition

variable {σ α : Type} (draw : Draw σ α) (start : σ)

/-- The stream behind so many draws. -/
def stream : Nat → σ
  | 0 => start
  | draws + 1 => (draw.run.run (stream draws)).2

/-- What a draw ends with, if there were so many before it. -/
def outcome (earlier : Nat) : Except GenerationError α :=
  (draw.run.run (draw.stream start earlier)).1

variable (accepts : α → Prop)

/-- So many draws give a value each, and none of these values is accepted. -/
def Refuses (draws : Nat) : Prop :=
  ∀ earlier < draws, ∃ value, draw.outcome start earlier = .ok value ∧ ¬ accepts value

/-- A draw gives a value that is accepted, and those before it give values that are not. -/
structure AcceptsFirst (earlier : Nat) (value : α) : Prop where
  refuses : draw.Refuses start accepts earlier
  gives : draw.outcome start earlier = .ok value
  accepted : accepts value

/-- How drawing again ends for which so many draws are allowed, and the stream that it leaves. -/
inductive Redraws (allowed : Nat) (exhausted : GenerationError) :
    Except GenerationError α × σ → Prop where
  /-- A value is accepted. -/
  | accepted {earlier : Nat} {value : α} :
      earlier < allowed →
      draw.AcceptsFirst start accepts earlier value →
      Redraws allowed exhausted (.ok value, draw.stream start (earlier + 1))
  /-- All draws have been made. -/
  | used :
      draw.Refuses start accepts allowed →
      Redraws allowed exhausted (.error exhausted, draw.stream start allowed)
  /-- A draw fails. -/
  | failed {earlier : Nat} {error : GenerationError} :
      earlier < allowed →
      draw.Refuses start accepts earlier →
      draw.outcome start earlier = .error error →
      Redraws allowed exhausted (.error error, draw.stream start (earlier + 1))

/--
A result that is the first accepted value, among as many draws as are allowed, or else says why
there is none.
-/
structure TakesFirst
    (allowed : Nat)
    (exhausted : GenerationError)
    (result : Except GenerationError α × σ) : Prop where
  takes : ∀ earlier value,
    earlier < allowed →
      draw.AcceptsFirst start accepts earlier value →
        result = (.ok value, draw.stream start (earlier + 1))
  gives : ∀ value,
    result.1 = .ok value → ∃ earlier < allowed, draw.AcceptsFirst start accepts earlier value
  exhausts : result.1 = .error exhausted ↔ draw.Refuses start accepts allowed
  leaves : draw.Refuses start accepts allowed → result.2 = draw.stream start allowed
  fails : ∀ earlier error,
    earlier < allowed →
      draw.Refuses start accepts earlier →
        draw.outcome start earlier = .error error →
          result = (.error error, draw.stream start (earlier + 1))

variable {draw start accepts}

namespace Refuses

variable {draws earlier : Nat} {value : α} {error : GenerationError}

/-- No draws refuse nothing. -/
theorem none : draw.Refuses start accepts 0 :=
  nofun

/-- One more draw gives a value that is refused. -/
theorem succ
    (refuses : draw.Refuses start accepts draws)
    (gives : draw.outcome start draws = .ok value)
    (refused : ¬ accepts value) :
    draw.Refuses start accepts (draws + 1) :=
  Nat.forall_lt_succ_right.2 ⟨refuses, value, gives, refused⟩

/-- A value that is accepted is not among those that are refused. -/
theorem le_of_acceptsFirst
    (refuses : draw.Refuses start accepts draws)
    (first : draw.AcceptsFirst start accepts earlier value) :
    draws ≤ earlier := by
  by_contra later
  obtain ⟨other, gives, refused⟩ := refuses earlier (Nat.lt_of_not_le later)
  obtain rfl := Except.ok.inj (first.gives.symm.trans gives)
  exact refused first.accepted

/-- A draw that fails is not among those that give values. -/
theorem le_of_fails
    (refuses : draw.Refuses start accepts draws)
    (fails : draw.outcome start earlier = .error error) :
    draws ≤ earlier := by
  by_contra later
  obtain ⟨other, gives, -⟩ := refuses earlier (Nat.lt_of_not_le later)
  cases fails.symm.trans gives

end Refuses

namespace Redraws

variable {allowed : Nat} {exhausted : GenerationError}
variable {first second : Except GenerationError α × σ}

/-- There is one end only. -/
theorem unique
    (ends : draw.Redraws start accepts allowed exhausted first)
    (endsToo : draw.Redraws start accepts allowed exhausted second) :
    first = second := by
  cases ends with
  | @accepted earlier value few isFirst =>
      cases endsToo with
      | @accepted other valueToo fewToo isFirstToo =>
          obtain rfl : earlier = other :=
            Nat.le_antisymm (isFirst.refuses.le_of_acceptsFirst isFirstToo)
              (isFirstToo.refuses.le_of_acceptsFirst isFirst)
          rw [Except.ok.inj (isFirst.gives.symm.trans isFirstToo.gives)]
      | used refuses => exact absurd (refuses.le_of_acceptsFirst isFirst) (Nat.not_le.2 few)
      | @failed other error fewToo refuses fails =>
          obtain rfl : earlier = other :=
            Nat.le_antisymm (isFirst.refuses.le_of_fails fails)
              (refuses.le_of_acceptsFirst isFirst)
          cases fails.symm.trans isFirst.gives
  | used refuses =>
      cases endsToo with
      | accepted few isFirst =>
          exact absurd (refuses.le_of_acceptsFirst isFirst) (Nat.not_le.2 few)
      | used => rfl
      | failed few _ fails => exact absurd (refuses.le_of_fails fails) (Nat.not_le.2 few)
  | @failed earlier error few refuses fails =>
      cases endsToo with
      | @accepted other value fewToo isFirst =>
          obtain rfl : earlier = other :=
            Nat.le_antisymm (refuses.le_of_acceptsFirst isFirst)
              (isFirst.refuses.le_of_fails fails)
          cases fails.symm.trans isFirst.gives
      | used refusesAll => exact absurd (refusesAll.le_of_fails fails) (Nat.not_le.2 few)
      | @failed other errorToo fewToo refusesToo failsToo =>
          obtain rfl : earlier = other :=
            Nat.le_antisymm (refuses.le_of_fails failsToo) (refusesToo.le_of_fails fails)
          rw [Except.error.inj (fails.symm.trans failsToo)]

/-- A value that is given was the first to be accepted. -/
theorem exists_acceptsFirst
    {value : α}
    (ends : draw.Redraws start accepts allowed exhausted first)
    (gives : first.1 = .ok value) :
    ∃ earlier < allowed, draw.AcceptsFirst start accepts earlier value := by
  cases ends with
  | accepted few isFirst =>
      obtain rfl := Except.ok.inj gives
      exact ⟨_, few, isFirst⟩
  | used => cases gives
  | failed => cases gives

/-- Drawing again takes the first accepted value, if no draw fails as if all were used up. -/
theorem takesFirst
    (ends : draw.Redraws start accepts allowed exhausted first)
    (others : draw.FailsOnly (· ≠ exhausted)) :
    draw.TakesFirst start accepts allowed exhausted first where
  takes _ _ few isFirst := ends.unique (.accepted few isFirst)
  gives _ given := ends.exists_acceptsFirst given
  exhausts := by
    constructor
    · intro exhausts
      cases ends with
      | accepted => cases exhausts
      | used refuses => exact refuses
      | failed _ _ fails => exact absurd (Except.error.inj exhausts) (others _ _ fails)
    · intro refuses
      rw [ends.unique (.used refuses)]
  leaves refuses := by rw [ends.unique (.used refuses)]
  fails _ _ few refuses fails := ends.unique (.failed few refuses fails)

end Redraws

end Repetition

section Failures

variable {σ α : Type} [RandomSource σ]

/-- For want of an integer no draws are used up. -/
theorem between_ne_exhausted (least greatest : Int) (lhs : String) (retries : Int) :
    (between least greatest : Draw σ Int).FailsOnly (· ≠ .exhausted lhs retries) := by
  refine (FailsOnly.lift _).andThen fun answer => ?_
  cases answer with
  | none => exact .throw nofun
  | some value => exact .pure value

/-- Nor are any for want of an item. -/
theorem choose_ne_exhausted (items : List α) (lhs : String) (retries : Int) :
    (choose items : Draw σ α).FailsOnly (· ≠ .exhausted lhs retries) := by
  refine (FailsOnly.lift _).andThen fun answer => ?_
  cases answer.bind (items[·]?) with
  | none => exact .throw nofun
  | some item => exact .pure item

end Failures

end Draw

namespace Generator

variable {σ : Type} [RandomSource σ]

/--
An alternative that may join those that have been taken: it is not the empty one where it would be
the only one, and none of the others has its text.
-/
structure Joins (sole : Bool) (taken : List Alternative) (drawn : Alternative) : Prop where
  notVacuous : sole = true → drawn.symbols ≠ []
  notTaken : ∀ other ∈ taken, other.text ≠ drawn.text

/-- What is fresh may join. -/
theorem isFresh_iff_joins {sole : Bool} {taken : List Alternative} {drawn : Alternative} :
    isFresh sole taken drawn = true ↔ Joins sole taken drawn := by
  constructor
  · intro fresh
    obtain ⟨notVacuous, notTaken⟩ := Bool.and_eq_true_iff.1 fresh
    refine ⟨fun isSole none => ?_, fun other member same => ?_⟩
    · simp [isSole, Alternative.isEmpty, none] at notVacuous
    · have isTaken : drawn.text ∈ taken.map Alternative.text :=
        List.mem_map.2 ⟨other, member, same⟩
      simp [isTaken] at notTaken
  · rintro ⟨notVacuous, notTaken⟩
    refine Bool.and_eq_true_iff.2 ⟨?_, ?_⟩
    · cases sole with
      | false => rfl
      | true => simpa [Alternative.isEmpty] using notVacuous rfl
    · simpa using notTaken

variable (generator : Generator) (lhs : String) (isRoot sole : Bool)

/-- From the draws that have been refused, drawing again goes on to its end. -/
theorem freshWithin_redraws
    {start : σ}
    {taken : List Alternative}
    {made : Nat}
    (refuses : (generator.alternative lhs isRoot).Refuses start (Joins sole taken) made)
    (retries : Nat) :
    (generator.alternative lhs isRoot).Redraws start (Joins sole taken) (made + retries)
      (.exhausted lhs generator.config.maxRetries)
      ((generator.freshWithin lhs isRoot sole taken retries).run.run
        ((generator.alternative lhs isRoot).stream start made)) := by
  induction retries generalizing made with
  | zero => exact .used refuses
  | succ retries inductionHypothesis =>
      rw [freshWithin]
      cases ends : (generator.alternative lhs isRoot).outcome start made with
      | error error =>
          rw [Draw.run_bind_of_error ends]
          exact .failed (by omega) refuses ends
      | ok drawn =>
          rw [Draw.run_bind_of_ok ends]
          by_cases fresh : isFresh sole taken drawn = true
          · simp only [fresh, if_true]
            exact .accepted (by omega) ⟨refuses, ends, isFresh_iff_joins.1 fresh⟩
          · simp only [fresh]
            rw [← Nat.add_assoc, Nat.add_right_comm]
            exact inductionHypothesis
              (refuses.succ ends fun joins => fresh (isFresh_iff_joins.2 joins))

/-- A fresh alternative is drawn again until it may join those that have been taken. -/
theorem freshAlternative_redraws (taken : List Alternative) (start : σ) :
    (generator.alternative lhs isRoot).Redraws start (Joins sole taken)
      generator.config.maxRetries.toNat (.exhausted lhs generator.config.maxRetries)
      ((generator.freshAlternative lhs isRoot sole taken).run.run start) := by
  have redraws := freshWithin_redraws generator lhs isRoot sole
    (.none : (generator.alternative lhs isRoot).Refuses start (Joins sole taken) 0)
    generator.config.maxRetries.toNat
  rwa [Nat.zero_add] at redraws

/-- No draws are used up for want of a symbol. -/
theorem symbols_ne_exhausted
    (candidates : List Symbol)
    (count : Nat)
    (name : String)
    (retries : Int) :
    (symbols candidates count : Draw σ (List Symbol)).FailsOnly (· ≠ .exhausted name retries) := by
  induction count with
  | zero => exact .pure []
  | succ count inductionHypothesis =>
      refine (Draw.choose_ne_exhausted _ _ _).andThen fun first => ?_
      exact inductionHypothesis.andThen fun others => .pure _

/-- A single draw never fails as if all were used up. -/
theorem alternative_ne_exhausted (name : String) (retries : Int) :
    (generator.alternative lhs isRoot : Draw σ Alternative).FailsOnly
      (· ≠ .exhausted name retries) := by
  refine (Draw.between_ne_exhausted _ _ _ _).andThen fun count => ?_
  split
  · exact (Draw.choose_ne_exhausted _ _ _).andThen fun only => .pure _
  · exact (symbols_ne_exhausted _ _ _ _).andThen fun drawn => .pure _

/-- Alternatives that are drawn one after the other, each of them fresh beside those before it. -/
inductive Picks (start : σ) : List Alternative → σ → Prop where
  | none : Picks start [] start
  | more {taken : List Alternative} {drawn : Alternative} {between after : σ} :
      Picks start taken between →
      (generator.freshAlternative lhs isRoot sole taken).run.run between = (.ok drawn, after) →
      Picks start (taken ++ [drawn]) after

/-- How drawing so many alternatives ends, and the stream that it leaves. -/
inductive PicksOrFails (start : σ) (wanted : Nat) :
    Except GenerationError (List Alternative) × σ → Prop where
  /-- There are as many alternatives as are wanted. -/
  | picked {drawn : List Alternative} {after : σ} :
      Picks generator lhs isRoot sole start drawn after →
      drawn.length = wanted →
      PicksOrFails start wanted (.ok drawn, after)
  /-- No fresh alternative is found that is wanted. -/
  | failed {taken : List Alternative} {error : GenerationError} {between after : σ} :
      Picks generator lhs isRoot sole start taken between →
      taken.length < wanted →
      (generator.freshAlternative lhs isRoot sole taken).run.run between = (.error error, after) →
      PicksOrFails start wanted (.error error, after)

variable {generator lhs isRoot sole}

/-- Alternatives that are picked have different texts. -/
theorem Picks.nodup_texts
    {start after : σ}
    {drawn : List Alternative}
    (picks : Picks generator lhs isRoot sole start drawn after) :
    (drawn.map Alternative.text).Nodup := by
  induction picks with
  | none => exact .nil
  | @more taken drawn between after picksTaken fresh inductionHypothesis =>
      have redraws := freshAlternative_redraws generator lhs isRoot sole taken between
      obtain ⟨earlier, -, isFirst⟩ := redraws.exists_acceptsFirst (congrArg Prod.fst fresh)
      rw [List.map_append, List.nodup_append]
      refine ⟨inductionHypothesis, List.nodup_singleton _, ?_⟩
      intro text isTaken other isDrawn same
      obtain ⟨member, inside, rfl⟩ := List.mem_map.1 isTaken
      exact isFirst.accepted.notTaken member inside (same.trans (List.mem_singleton.1 isDrawn))

/-- From the alternatives that have been picked, drawing goes on to its end. -/
theorem alternatives_picksOrFails
    {start between : σ}
    {taken : List Alternative}
    (picks : Picks generator lhs isRoot sole start taken between)
    (count : Nat) :
    PicksOrFails generator lhs isRoot sole start (taken.length + count)
      ((generator.alternatives lhs isRoot sole taken count).run.run between) := by
  induction count generalizing taken between with
  | zero => exact .picked picks rfl
  | succ count inductionHypothesis =>
      rw [alternatives]
      cases ends : (generator.freshAlternative lhs isRoot sole taken).run.run between with
      | mk result after =>
          cases result with
          | error error =>
              rw [Draw.run_bind_of_error (congrArg Prod.fst ends), ends]
              exact .failed picks (by omega) ends
          | ok drawn =>
              rw [Draw.run_bind_of_ok (congrArg Prod.fst ends), ends]
              have later := inductionHypothesis (.more picks ends)
              rwa [List.length_append, List.length_singleton, Nat.add_assoc,
                Nat.add_comm 1] at later

/-- Once the number of its alternatives is drawn, a rule ends as drawing these does. -/
theorem rule_ends
    {start behind : σ}
    {number : Int}
    (counts : (Draw.between generator.config.minAlternatives
      generator.config.maxAlternatives).run.run start = (.ok number, behind)) :
    ∃ picked,
      PicksOrFails generator lhs isRoot (number = 1) behind number.toNat picked ∧
        (generator.rule lhs isRoot).run.run start = (picked.1.map (Rule.mk lhs), picked.2) := by
  have picksOrFails := alternatives_picksOrFails
    (.none : Picks generator lhs isRoot (number = 1) behind [] behind) number.toNat
  rw [List.length_nil, Nat.zero_add] at picksOrFails
  refine ⟨_, picksOrFails, ?_⟩
  rw [rule, Draw.run_bind_of_ok (congrArg Prod.fst counts), counts]
  cases ends : (generator.alternatives lhs isRoot (number = 1) [] number.toNat).run.run behind with
  | mk result after =>
      cases result with
      | error error => rw [Draw.run_bind_of_error (congrArg Prod.fst ends), ends]; rfl
      | ok drawn => rw [Draw.run_bind_of_ok (congrArg Prod.fst ends), ends]; rfl

/--
A fresh alternative is the first of successive draws that may join those that have been taken,
and the stream is left right behind that draw. Exactly if all draws that are allowed give
alternatives that may not join, they are used up, which no draw says of itself. A draw that fails
before is the end as well. So a rule gets exactly as many alternatives as have been drawn for it,
with different texts, or it fails as drawing their number does, or as the first one does that is
not found.
-/
theorem freshAlternative_takesFirst
    (generator : Generator)
    (lhs : String)
    (isRoot : Bool)
    (σ : Type)
    [RandomSource σ]
    (start : σ) :
    (∀ earlier name retries,
      (generator.alternative lhs isRoot).outcome start earlier ≠
        .error (.exhausted name retries)) ∧
    (∀ (sole : Bool) (taken : List Alternative),
      (generator.alternative lhs isRoot).TakesFirst start (Joins sole taken)
        generator.config.maxRetries.toNat (.exhausted lhs generator.config.maxRetries)
        ((generator.freshAlternative lhs isRoot sole taken).run.run start)) ∧
    (∀ error behind,
      (Draw.between generator.config.minAlternatives
        generator.config.maxAlternatives).run.run start = (.error error, behind) →
      (generator.rule lhs isRoot).run.run start = (.error error, behind)) ∧
    ∀ number behind,
      (Draw.between generator.config.minAlternatives
        generator.config.maxAlternatives).run.run start = (.ok number, behind) →
      (∃ drawn after,
        (generator.rule lhs isRoot).run.run start = (.ok ⟨lhs, drawn⟩, after) ∧
          (drawn.length : Int) = max 0 number ∧
          (drawn.map Alternative.text).Nodup ∧
          Picks generator lhs isRoot (number = 1) behind drawn after) ∨
      ∃ taken between error after,
        (generator.rule lhs isRoot).run.run start = (.error error, after) ∧
          (taken.length : Int) < number ∧
          Picks generator lhs isRoot (number = 1) behind taken between ∧
          (generator.freshAlternative lhs isRoot (number = 1) taken).run.run between =
            (.error error, after) := by
  refine ⟨fun earlier name retries fails => ?_, fun sole taken => ?_,
    fun error behind fails => ?_, fun number behind counts => ?_⟩
  · exact alternative_ne_exhausted generator lhs isRoot name retries _ _ fails rfl
  · exact (freshAlternative_redraws generator lhs isRoot sole taken start).takesFirst
      (alternative_ne_exhausted generator lhs isRoot lhs _)
  · rw [rule, Draw.run_bind_of_error (congrArg Prod.fst fails), fails]
  · obtain ⟨picked, ends, ruleEnds⟩ := rule_ends counts
    cases ends with
    | @picked drawn after picks length =>
        exact .inl ⟨drawn, after, ruleEnds, by omega, picks.nodup_texts, picks⟩
    | @failed taken error between after picks few fails =>
        exact .inr ⟨taken, between, error, after, ruleEnds, by omega, picks, fails⟩

/-- Three names and a terminal, for alternatives of one symbol. -/
def threeNames : Generator where
  config := {
    minSymbols := 1
    maxSymbols := 1
    maxRetries := 2
    oneAlternative := Config.oneOrdered
    alternativesOrdered := Config.threeOrdered
    symbolsNonnegative := Int.one_nonneg
    symbolsOrdered := Config.oneOrdered
    oneRootSymbol := Config.oneOrdered
    rootSymbolsOrdered := Config.oneOrdered }
  nonterminals := ["A", "B", "C"]
  terminals := ["a"]

/-- The alternative that is a single name. -/
def single (name : String) : Alternative :=
  { symbols := [.nonterminal name] }

/-- Drawn in turn, a name that has been taken is refused; the next one joins if it is another. -/
theorem freshAlternative_takesFirst_in_turn :
    let draw : Draw InTurn Alternative := threeNames.alternative "root" true
    draw.AcceptsFirst ⟨0⟩ (Joins false [single "B"]) 1 (single "A") ∧
      (threeNames.freshAlternative "root" true false [single "B"]).run.run (InTurn.mk 0) =
        (.ok (single "A"), ⟨4⟩) ∧
      draw.Refuses ⟨0⟩ (Joins false [single "A", single "B"]) 2 ∧
      (threeNames.freshAlternative "root" true false [single "A", single "B"]).run.run
          (InTurn.mk 0) =
        (.error (.exhausted "root" 2), ⟨4⟩) ∧
      (Draw.between 1 3).run.run (InTurn.mk 2) = (.ok 3, ⟨3⟩) ∧
      ∃ drawn after,
        (threeNames.rule "root" true).run.run (InTurn.mk 2) = (.ok ⟨"root", drawn⟩, after) ∧
          (drawn.length : Int) = 3 ∧
          (drawn.map Alternative.text).Nodup := by
  intro draw
  have first : draw.outcome ⟨0⟩ 0 = .ok (single "B") := by decide +kernel
  have second : draw.outcome ⟨0⟩ 1 = .ok (single "A") := by decide +kernel
  have refused : ∀ {taken : List Alternative} {drawn : Alternative},
      drawn ∈ taken → ¬ Joins false taken drawn :=
    fun member joins => joins.notTaken _ member rfl
  have refusesOne : ∀ {taken : List Alternative}, single "B" ∈ taken →
      draw.Refuses ⟨0⟩ (Joins false taken) 1 :=
    fun member => Draw.Refuses.none.succ first (refused member)
  have accepts : draw.AcceptsFirst ⟨0⟩ (Joins false [single "B"]) 1 (single "A") :=
    ⟨refusesOne (by simp), second, isFresh_iff_joins.1 (by decide)⟩
  have refuses : draw.Refuses ⟨0⟩ (Joins false [single "A", single "B"]) 2 :=
    (refusesOne (by simp)).succ second (refused (by simp))
  have counts : (Draw.between 1 3).run.run (InTurn.mk 2) = (.ok 3, ⟨3⟩) := rfl
  obtain ⟨-, fresh, -⟩ := freshAlternative_takesFirst threeNames "root" true InTurn ⟨0⟩
  obtain ⟨-, -, -, rules⟩ := freshAlternative_takesFirst threeNames "root" true InTurn ⟨2⟩
  refine ⟨accepts, (fresh false [single "B"]).takes 1 _ (by decide) accepts, refuses, ?_, counts,
    ?_⟩
  · exact Prod.ext ((fresh false _).exhausts.2 refuses) ((fresh false _).leaves refuses)
  · rcases rules 3 ⟨3⟩ counts with
      ⟨drawn, after, ends, length, distinct, -⟩ | ⟨-, -, _, _, fails, -⟩
    · exact ⟨drawn, after, ends, length, distinct⟩
    · have succeeds : ((threeNames.rule "root" true).run.run (InTurn.mk 2)).1.toOption.isSome :=
        by decide +kernel
      rw [fails] at succeeds
      cases succeeds

end Generator

end GrammarCorpus
