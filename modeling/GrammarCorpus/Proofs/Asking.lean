import GrammarCorpus.Proofs.Generation
import GrammarCorpus.Proofs.Failure

namespace GrammarCorpus

/-!
# How many questions a draw asks

A tally passes all questions on to a source and counts them. A draw with a tally does what it
does with the source alone, so the count that it leaves is the number of questions that the
source has been asked. Bounds on that number are carried through the steps that draws are
composed of. The configuration bounds how often an alternative is drawn, and every selected name
gets one rule at most, so the generator asks only so many questions of any lawful source.
-/

/-- A source, and how many questions it has been asked. -/
structure Tally (σ : Type) where
  source : σ
  asked : Nat

namespace Tally

/-- Passes a question on to the source and counts it. -/
def ask {σ α : Type} (question : StateM σ α) : StateM (Tally σ) α := fun tally =>
  ((question.run tally.source).1, ⟨(question.run tally.source).2, tally.asked + 1⟩)

end Tally

instance {σ : Type} [RandomSource σ] : RandomSource (Tally σ) where
  between? least greatest := Tally.ask (RandomSource.between? least greatest)
  position? length := Tally.ask (RandomSource.position? length)
  positions? length count := Tally.ask (RandomSource.positions? length count)

/-- What is counted is answered as lawfully as before. -/
instance {σ : Type} [RandomSource σ] [LawfulRandomSource σ] : LawfulRandomSource (Tally σ) where
  between?_mem tally _ _ ordered := LawfulRandomSource.between?_mem tally.source ordered
  position?_lt tally _ positive := LawfulRandomSource.position?_lt tally.source positive
  positions?_nodup tally _ _ enough := LawfulRandomSource.positions?_nodup tally.source enough

/-- With a tally a draw ends as it does without one, and asks so many questions at most. -/
def Draw.AsksAtMost
    {σ α : Type}
    (draw : Draw σ α)
    (tallied : Draw (Tally σ) α)
    (most : Nat) : Prop :=
  ∀ tally : Tally σ, ∃ asked ≤ most,
    tallied.run.run tally =
      ((draw.run.run tally.source).1, ⟨(draw.run.run tally.source).2, tally.asked + asked⟩)

namespace Draw.AsksAtMost

variable {σ α β : Type} {property : α → Prop} {most more : Nat}

/-- A value asks nothing. -/
theorem pure (value : α) :
    (Pure.pure value : Draw σ α).AsksAtMost (Pure.pure value) 0 :=
  fun _ => ⟨0, Nat.le_refl _, rfl⟩

/-- A failure asks nothing. -/
theorem throw (error : GenerationError) :
    (MonadExcept.throw error : Draw σ α).AsksAtMost (MonadExcept.throw error) 0 :=
  fun _ => ⟨0, Nat.le_refl _, rfl⟩

/-- A question is one question. -/
theorem lift (question : StateM σ α) :
    Draw.AsksAtMost (ExceptT.lift question) (ExceptT.lift (Tally.ask question)) 1 :=
  fun _ => ⟨1, Nat.le_refl _, rfl⟩

/-- The bound may be greater. -/
theorem mono
    {draw : Draw σ α}
    {tallied : Draw (Tally σ) α}
    (asks : draw.AsksAtMost tallied most)
    (le : most ≤ more) :
    draw.AsksAtMost tallied more := by
  intro tally
  obtain ⟨asked, few, ends⟩ := asks tally
  exact ⟨asked, Nat.le_trans few le, ends⟩

/-- The questions of two steps add up; the second step may rely on what the first one gives. -/
theorem bind
    {first : Draw σ α}
    {firstTallied : Draw (Tally σ) α}
    {second : α → Draw σ β}
    {secondTallied : α → Draw (Tally σ) β}
    (asks : first.AsksAtMost firstTallied most)
    (gives : first.Gives property)
    (continues : ∀ value, property value →
      (second value).AsksAtMost (secondTallied value) more) :
    (first >>= second).AsksAtMost (firstTallied >>= secondTallied) (more + most) := by
  intro tally
  obtain ⟨asked, few, ends⟩ := asks tally
  cases begins : (first.run.run tally.source).1 with
  | error failure =>
      rw [begins] at ends
      have fails : (firstTallied.run.run tally).1 = .error failure := congrArg Prod.fst ends
      refine ⟨asked, Nat.le_trans few (Nat.le_add_left _ _), ?_⟩
      rw [run_bind_of_error begins, run_bind_of_error fails, ends]
  | ok value =>
      rw [begins] at ends
      have givesToo : (firstTallied.run.run tally).1 = .ok value := congrArg Prod.fst ends
      rw [run_bind_of_ok begins, run_bind_of_ok givesToo, ends]
      obtain ⟨others, fewToo, endsToo⟩ :=
        continues value (gives _ _ begins) ⟨(first.run.run tally.source).2, tally.asked + asked⟩
      refine ⟨asked + others, by omega, ?_⟩
      rw [endsToo, Nat.add_assoc]

/-- The questions of two steps add up, whatever the first one gives. -/
theorem andThen
    {first : Draw σ α}
    {firstTallied : Draw (Tally σ) α}
    {second : α → Draw σ β}
    {secondTallied : α → Draw (Tally σ) β}
    (asks : first.AsksAtMost firstTallied most)
    (continues : ∀ value, (second value).AsksAtMost (secondTallied value) more) :
    (first >>= second).AsksAtMost (firstTallied >>= secondTallied) (more + most) :=
  have gives : first.Gives fun _ => True := fun _ _ _ => trivial
  asks.bind gives fun value _ => continues value

/-- A step that only arranges what has been given asks nothing. -/
theorem andGive
    {draw : Draw σ α}
    {tallied : Draw (Tally σ) α}
    (asks : draw.AsksAtMost tallied most)
    (arrange : α → β) :
    (draw >>= fun value => Pure.pure (arrange value)).AsksAtMost
      (tallied >>= fun value => Pure.pure (arrange value)) most := by
  have both := asks.andThen fun value => pure (arrange value)
  rwa [Nat.zero_add] at both

/-- What meets a failure may ask further questions. -/
theorem tryCatch
    {draw : Draw σ α}
    {tallied : Draw (Tally σ) α}
    {handle : GenerationError → Draw σ α}
    {handleTallied : GenerationError → Draw (Tally σ) α}
    (asks : draw.AsksAtMost tallied most)
    (handles : ∀ error, (handle error).AsksAtMost (handleTallied error) more) :
    Draw.AsksAtMost (MonadExcept.tryCatch draw handle)
      (MonadExcept.tryCatch tallied handleTallied) (more + most) := by
  intro tally
  obtain ⟨asked, few, ends⟩ := asks tally
  cases begins : (draw.run.run tally.source).1 with
  | error failure =>
      rw [begins] at ends
      have fails : (tallied.run.run tally).1 = .error failure := congrArg Prod.fst ends
      rw [run_tryCatch_of_error begins, run_tryCatch_of_error fails, ends]
      obtain ⟨others, fewToo, endsToo⟩ :=
        handles failure ⟨(draw.run.run tally.source).2, tally.asked + asked⟩
      refine ⟨asked + others, by omega, ?_⟩
      rw [endsToo, Nat.add_assoc]
  | ok value =>
      rw [begins] at ends
      have gives : (tallied.run.run tally).1 = .ok value := congrArg Prod.fst ends
      refine ⟨asked, Nat.le_trans few (Nat.le_add_left _ _), ?_⟩
      rw [run_tryCatch_of_ok begins, run_tryCatch_of_ok gives, ends, begins]

end Draw.AsksAtMost

namespace Draw

variable {σ α : Type} [RandomSource σ]

/-- An integer takes one question. -/
theorem between_asks (least greatest : Int) :
    (between least greatest : Draw σ Int).AsksAtMost (between least greatest) 1 := by
  refine (AsksAtMost.lift (RandomSource.between? least greatest)).andThen fun answer => ?_
  cases answer with
  | none => exact .throw _
  | some value => exact .pure value

/-- A choice takes one question. -/
theorem choose_asks (items : List α) :
    (choose items : Draw σ α).AsksAtMost (choose items) 1 := by
  refine (AsksAtMost.lift (RandomSource.position? items.length)).andThen fun answer => ?_
  cases answer.bind (items[·]?) with
  | none => exact .throw _
  | some item => exact .pure item

/-- A sample takes one question. -/
theorem sample_asks (items : List α) (count : Nat) :
    (sample items count : Draw σ (List α)).AsksAtMost (sample items count) 1 := by
  refine (AsksAtMost.lift (RandomSource.positions? items.length count)).andThen fun answer => ?_
  cases answer with
  | none => exact .throw _
  | some positions => exact .pure _

end Draw

namespace Config

/-- The number of questions that an alternative takes at most. -/
def alternativeQuestions (config : Config) : Nat :=
  config.maxSymbols.toNat + 1

/-- The number of questions that a rule takes at most: every alternative may be drawn again. -/
def ruleQuestions (config : Config) : Nat :=
  config.maxAlternatives.toNat * (config.maxRetries.toNat * config.alternativeQuestions) + 1

/-- The number of questions that a grammar takes at most: two samples, and a rule for each name. -/
def questions (config : Config) (size : Int) : Nat :=
  size.toNat * config.ruleQuestions + 2

end Config

namespace Generator

variable {σ : Type} [RandomSource σ]

/-- Every symbol takes one question. -/
theorem symbols_asks (candidates : List Symbol) (count : Nat) :
    (symbols candidates count : Draw σ (List Symbol)).AsksAtMost
      (symbols candidates count) count := by
  induction count with
  | zero => exact .pure []
  | succ count inductionHypothesis =>
      refine (Draw.choose_asks candidates).andThen fun first => ?_
      exact inductionHypothesis.andGive (first :: ·)

variable [LawfulRandomSource σ] (generator : Generator) (lhs : String) (isRoot sole : Bool)

/-- An alternative takes one question for its length and one for every symbol. -/
theorem alternative_asks :
    (generator.alternative lhs isRoot : Draw σ Alternative).AsksAtMost
      (generator.alternative lhs isRoot) generator.config.alternativeQuestions := by
  rw [Config.alternativeQuestions]
  refine (Draw.between_asks _ _).bind
    (Draw.between_gives (generator.leastSymbols_le isRoot)) ?_
  rintro count ⟨-, greatest⟩
  split
  · have oneSymbol : 1 ≤ generator.config.maxSymbols.toNat := by
      have oneRootSymbol := generator.config.oneRootSymbol
      have rootSymbolsOrdered := generator.config.rootSymbolsOrdered
      omega
    exact ((Draw.choose_asks _).andGive fun only => Alternative.mk [only]).mono oneSymbol
  · have counted : count.toNat ≤ generator.config.maxSymbols.toNat :=
      Int.toNat_le_toNat greatest
    exact ((symbols_asks _ _).andGive Alternative.mk).mono counted

/-- A fresh alternative takes the questions of one for every time that it is drawn. -/
theorem freshWithin_asks (taken : List Alternative) (retries : Nat) :
    (generator.freshWithin lhs isRoot sole taken retries : Draw σ Alternative).AsksAtMost
      (generator.freshWithin lhs isRoot sole taken retries)
      (retries * generator.config.alternativeQuestions) := by
  induction retries with
  | zero => exact (Draw.AsksAtMost.throw _).mono (Nat.zero_le _)
  | succ retries inductionHypothesis =>
      rw [Nat.succ_mul]
      refine (generator.alternative_asks lhs isRoot).andThen fun drawn => ?_
      split
      · exact (Draw.AsksAtMost.pure drawn).mono (Nat.zero_le _)
      · exact inductionHypothesis

/-- Several fresh alternatives take the questions of one, so many times. -/
theorem alternatives_asks (taken : List Alternative) (count : Nat) :
    (generator.alternatives lhs isRoot sole taken count : Draw σ (List Alternative)).AsksAtMost
      (generator.alternatives lhs isRoot sole taken count)
      (count * (generator.config.maxRetries.toNat * generator.config.alternativeQuestions)) := by
  induction count generalizing taken with
  | zero => exact (Draw.AsksAtMost.pure taken).mono (Nat.zero_le _)
  | succ count inductionHypothesis =>
      rw [Nat.succ_mul]
      refine (generator.freshWithin_asks lhs isRoot sole taken _).andThen fun drawn => ?_
      exact inductionHypothesis (taken ++ [drawn])

/-- A rule takes one question for the number of its alternatives, and those of them all. -/
theorem rule_asks :
    (generator.rule lhs isRoot : Draw σ Rule).AsksAtMost
      (generator.rule lhs isRoot) generator.config.ruleQuestions := by
  rw [Config.ruleQuestions]
  refine (Draw.between_asks _ _).bind
    (Draw.between_gives generator.config.alternativesOrdered) ?_
  rintro count ⟨-, greatest⟩
  exact ((generator.alternatives_asks lhs isRoot _ [] _).andGive (Rule.mk lhs)).mono
    (Nat.mul_le_mul_right _ (Int.toNat_le_toNat greatest))

end Generator

namespace Expansion

variable {σ : Type} {ruleFor : String → Draw σ Rule} {ruleForTallied : String → Draw (Tally σ) Rule}
variable {most : Nat}

/-- Every name that waits or has not been met gets one rule at most. -/
theorem rules_asks
    (asks : ∀ name, (ruleFor name).AsksAtMost (ruleForTallied name) most)
    (frontier : Frontier) :
    Draw.AsksAtMost (rules ruleFor frontier) (rules ruleForTallied frontier)
      (frontier.size * most) := by
  induction frontier using rules.induct with
  | case1 unseen =>
      rw [rules, rules]
      exact (Draw.AsksAtMost.pure []).mono (Nat.zero_le _)
  | case2 name waiting unseen inductionHypothesis =>
      rw [rules, rules]
      have counted : ∀ rule : Rule, _ :=
        fun rule => Frontier.size_foldl_enqueue_le rule.nonterminals { waiting, unseen }
      have size : Frontier.size { waiting := name :: waiting, unseen } * most =
          Frontier.size { waiting, unseen } * most + most := by
        rw [Frontier.size, List.length_cons, Nat.add_right_comm, Nat.succ_mul]
        rfl
      rw [size]
      refine (asks name).andThen fun rule => ?_
      exact ((inductionHypothesis rule).andGive (rule :: ·)).mono
        (Nat.mul_le_mul_right _ (counted rule))

/-- No more names than those given can be met behind the root. -/
theorem size_behind_le (root : Rule) (names : List String) :
    (behind root names).size ≤ names.length := by
  have distinct : names.eraseDups.Subperm names :=
    List.subperm_of_subset (nodup_eraseDups names) fun _ => List.mem_eraseDups.1
  calc
    (behind root names).size ≤
        Frontier.size { waiting := [], unseen := Frontier.forget root.lhs names.eraseDups } :=
      Frontier.size_foldl_enqueue_le _ _
    _ = (Frontier.forget root.lhs names.eraseDups).length := Nat.zero_add _
    _ ≤ names.eraseDups.length := List.length_filter_le _ _
    _ ≤ names.length := distinct.length_le

/-- The root gets one rule, and so does every given name at most. -/
theorem fromRoot_asks
    {rootRule : Draw σ Rule}
    {rootRuleTallied : Draw (Tally σ) Rule}
    (asksRoot : rootRule.AsksAtMost rootRuleTallied most)
    (asks : ∀ name, (ruleFor name).AsksAtMost (ruleForTallied name) most)
    (names : List String) :
    Draw.AsksAtMost (fromRoot rootRule ruleFor names)
      (fromRoot rootRuleTallied ruleForTallied names) ((names.length + 1) * most) := by
  rw [Nat.succ_mul]
  refine asksRoot.andThen fun root => ?_
  exact ((rules_asks asks (behind root names)).andGive (root :: ·)).mono
    (Nat.mul_le_mul_right _ (size_behind_le root names))

end Expansion

namespace Config

variable {σ : Type}

/-- A grammar that is given up takes no further questions. -/
theorem giveUpWhenExhausted_asks
    {α : Type}
    {draw : Draw σ (Option α)}
    {tallied : Draw (Tally σ) (Option α)}
    {most : Nat}
    (asks : draw.AsksAtMost tallied most) :
    (giveUpWhenExhausted draw).AsksAtMost (giveUpWhenExhausted tallied) most := by
  rw [← Nat.zero_add most]
  refine asks.tryCatch fun error => ?_
  cases error with
  | exhausted lhs retries => exact .pure none
  | _ => exact .throw _

variable [RandomSource σ]

/-- The selection takes two questions, and none for a size that is refused. -/
theorem selectAlphabet_asks (config : Config) (size : Int) :
    (config.selectAlphabet size : Draw σ (List String × List String)).AsksAtMost
      (config.selectAlphabet size) 2 := by
  unfold selectAlphabet
  split
  · exact (Draw.AsksAtMost.throw _).mono (Nat.zero_le _)
  · split
    · exact (Draw.AsksAtMost.throw _).mono (Nat.zero_le _)
    · refine (Draw.sample_asks _ _).andThen fun nonterminals => ?_
      exact (Draw.sample_asks _ _).andGive fun terminals => (nonterminals, terminals)

variable [LawfulRandomSource σ]

/-- A generated grammar takes a bounded number of questions, whatever the source answers. -/
theorem generate_asks (config : Config) (size : Int) :
    (config.generate size : Draw σ (Option Grammar)).AsksAtMost
      (config.generate size) (config.questions size) := by
  refine (config.selectAlphabet_asks size).bind (config.selectAlphabet_gives size) ?_
  rintro ⟨nonterminals, terminals⟩ selected
  have counted : nonterminals.length + 1 = size.toNat := by
    have length := selected.nonterminals_length
    simp only at length
    omega
  rw [← counted]
  apply giveUpWhenExhausted_asks
  exact (Expansion.fromRoot_asks (Generator.rule_asks _ _ _)
    (fun name => Generator.rule_asks _ name false) nonterminals).andGive
      (Expansion.accept? nonterminals)

end Config

end GrammarCorpus
