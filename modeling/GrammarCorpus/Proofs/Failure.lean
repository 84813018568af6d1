import GrammarCorpus.Proofs.Generation
import Mathlib.Data.List.Perm.Subperm

namespace GrammarCorpus

/-!
# How draws fail

What a draw can fail with is carried through the steps that it is composed of, like what it
gives. A lawful source has an integer between bounds that are in order, and an item of any list
but the empty one; so all that is left to fail in the generator is a root alternative of one
symbol, where no name but that of the root was selected.
-/

/-- Every failure of a draw is one of those allowed. -/
def Draw.FailsOnly {σ α : Type} (draw : Draw σ α) (allowed : GenerationError → Prop) : Prop :=
  ∀ state error, (draw.run.run state).1 = .error error → allowed error

namespace Draw.FailsOnly

variable {σ α β : Type} {property : α → Prop} {allowed : GenerationError → Prop}

/-- A value is no failure. -/
theorem pure (value : α) : (Pure.pure value : Draw σ α).FailsOnly allowed := by
  intro state error ends
  cases ends

/-- A failure that is allowed. -/
theorem throw
    {error : GenerationError}
    (isAllowed : allowed error) :
    (MonadExcept.throw error : Draw σ α).FailsOnly allowed := by
  intro state other ends
  cases ends
  exact isAllowed

/-- The second step may rely on what the first one gives. -/
theorem bind
    {first : Draw σ α}
    {second : α → Draw σ β}
    (fails : first.FailsOnly allowed)
    (gives : first.Gives property)
    (continues : ∀ value, property value → (second value).FailsOnly allowed) :
    (first >>= second).FailsOnly allowed := by
  intro state error ends
  cases begins : (first.run.run state).1 with
  | error failure =>
      rw [run_bind_of_error begins] at ends
      cases ends
      exact fails state _ begins
  | ok value =>
      rw [run_bind_of_ok begins] at ends
      exact continues value (gives state value begins) _ error ends

/-- Whatever the first step gives, the second one fails in the same ways only. -/
theorem andThen
    {first : Draw σ α}
    {second : α → Draw σ β}
    (fails : first.FailsOnly allowed)
    (continues : ∀ value, (second value).FailsOnly allowed) :
    (first >>= second).FailsOnly allowed :=
  have gives : first.Gives fun _ => True := fun _ _ _ => trivial
  fails.bind gives fun value _ => continues value

/-- What the source answers is no failure. -/
theorem lift (question : StateM σ α) : Draw.FailsOnly (ExceptT.lift question) allowed := by
  intro state error ends
  cases ends

/-- Failures that are met are left to what meets them. -/
theorem tryCatch
    {draw : Draw σ α}
    {handle : GenerationError → Draw σ α}
    {remaining : GenerationError → Prop}
    (fails : draw.FailsOnly allowed)
    (handles : ∀ error, allowed error → (handle error).FailsOnly remaining) :
    Draw.FailsOnly (MonadExcept.tryCatch draw handle) remaining := by
  intro state error ends
  cases begins : (draw.run.run state).1 with
  | error failure =>
      rw [run_tryCatch_of_error begins] at ends
      exact handles failure (fails state failure begins) _ error ends
  | ok value =>
      rw [run_tryCatch_of_ok begins, begins] at ends
      cases ends

/-- A draw that can only fail in ways that are ruled out gives a value. -/
theorem exists_ok
    {draw : Draw σ α}
    (fails : draw.FailsOnly allowed)
    (ruledOut : ∀ error, ¬ allowed error)
    (state : σ) :
    ∃ value, (draw.run.run state).1 = .ok value := by
  cases ends : (draw.run.run state).1 with
  | error error => exact absurd (fails state error ends) (ruledOut error)
  | ok value => exact ⟨value, rfl⟩

end Draw.FailsOnly

namespace Draw

variable {σ α : Type} [RandomSource σ] [LawfulRandomSource σ]
variable {allowed : GenerationError → Prop} {items : List α}

/-- There is an integer between bounds that are in order. -/
theorem between_failsOnly
    {least greatest : Int}
    (ordered : least ≤ greatest) :
    (between least greatest : Draw σ Int).FailsOnly allowed := by
  have answers : Gives (ExceptT.lift (RandomSource.between? least greatest) : Draw σ _)
      fun answer => ∃ value, answer = some value := by
    refine .lift fun state => ?_
    obtain ⟨value, drawn, -⟩ := LawfulRandomSource.between?_mem state ordered
    exact ⟨value, drawn⟩
  refine (FailsOnly.lift _).bind answers ?_
  rintro answer ⟨value, rfl⟩
  exact .pure value

/-- An item is chosen unless there is none. -/
theorem choose_failsOnly
    (reason : items = [] → allowed .nothingToChoose) :
    (choose items : Draw σ α).FailsOnly allowed := by
  by_cases none : items = []
  · refine (FailsOnly.lift _).andThen fun answer => ?_
    have noItem : answer.bind (items[·]?) = Option.none := by
      rw [none]
      cases answer <;> rfl
    simp only [noItem]
    exact .throw (reason none)
  · have answers : Gives (ExceptT.lift (RandomSource.position? items.length) : Draw σ _)
        fun answer => ∃ position, answer = some position ∧ position < items.length :=
      .lift fun state =>
        LawfulRandomSource.position?_lt state (List.length_pos_of_ne_nil none)
    refine (FailsOnly.lift _).bind answers ?_
    rintro answer ⟨position, rfl, inside⟩
    simp only [Option.bind_some, List.getElem?_eq_getElem inside]
    exact .pure _

/-- There are as many items as are asked for. -/
theorem sample_failsOnly
    {count : Nat}
    (enough : count ≤ items.length) :
    (sample items count : Draw σ (List α)).FailsOnly allowed := by
  have answers :
      Gives (ExceptT.lift (RandomSource.positions? items.length count) : Draw σ _)
        fun answer => ∃ positions, answer = some positions := by
    refine .lift fun state => ?_
    obtain ⟨positions, drawn, -⟩ := LawfulRandomSource.positions?_nodup state enough
    exact ⟨positions, drawn⟩
  refine (FailsOnly.lift _).bind answers ?_
  rintro answer ⟨positions, rfl⟩
  exact .pure _

end Draw

namespace Generator

variable {σ : Type} [RandomSource σ]
variable {generator : Generator} {lhs : String} {isRoot sole : Bool}
variable {allowed : GenerationError → Prop}

/-- A fresh alternative fails like any, and where all draws are used up. -/
theorem freshWithin_failsOnly
    {taken : List Alternative}
    {retries : Nat}
    (draws : 0 < retries →
      (generator.alternative lhs isRoot : Draw σ Alternative).FailsOnly allowed)
    (exhausts : allowed (.exhausted lhs generator.config.maxRetries)) :
    (generator.freshWithin lhs isRoot sole taken retries :
      Draw σ Alternative).FailsOnly allowed := by
  induction retries with
  | zero => exact .throw exhausts
  | succ retries inductionHypothesis =>
      refine (draws (Nat.succ_pos _)).andThen fun drawn => ?_
      by_cases fresh : isFresh sole taken drawn = true
      · simp only [fresh, if_true]
        exact .pure _
      · simp only [fresh]
        exact inductionHypothesis fun _ => draws (Nat.succ_pos _)

/-- Several fresh alternatives fail like one. -/
theorem alternatives_failsOnly
    {taken : List Alternative}
    (draws : 0 < generator.config.maxRetries →
      (generator.alternative lhs isRoot : Draw σ Alternative).FailsOnly allowed)
    (exhausts : allowed (.exhausted lhs generator.config.maxRetries))
    (count : Nat) :
    (generator.alternatives lhs isRoot sole taken count :
      Draw σ (List Alternative)).FailsOnly allowed := by
  induction count generalizing taken with
  | zero => exact .pure _
  | succ count inductionHypothesis =>
      have one : (generator.freshAlternative lhs isRoot sole taken :
          Draw σ Alternative).FailsOnly allowed :=
        freshWithin_failsOnly (fun positive => draws (by omega)) exhausts
      exact one.andThen fun _ => inductionHypothesis

variable [LawfulRandomSource σ]

/-- Symbols are drawn unless there are no candidates. -/
theorem symbols_failsOnly
    {candidates : List Symbol}
    (reason : candidates = [] → allowed .nothingToChoose)
    (count : Nat) :
    (symbols candidates count : Draw σ (List Symbol)).FailsOnly allowed := by
  induction count with
  | zero => exact .pure _
  | succ count inductionHypothesis =>
      refine (Draw.choose_failsOnly reason).andThen fun first => ?_
      exact inductionHypothesis.andThen fun others => .pure _

/-- Terminals are candidates for every name. -/
theorem candidates_ne_nil
    (some : generator.terminals ≠ [])
    (lhs : String) :
    generator.candidates lhs ≠ [] := by
  obtain ⟨terminal, others, same⟩ := List.exists_cons_of_ne_nil some
  refine List.ne_nil_of_mem (mem_candidates.2 ⟨terminal_mem_pool.2 ?_, ?_⟩ :
    Symbol.terminal terminal ∈ generator.candidates lhs)
  · exact same ▸ List.mem_cons_self
  · exact nofun

/-- No candidate is a name exactly if every selected name is that of the rule. -/
theorem no_names_iff :
    (generator.candidates lhs).filter (fun symbol => symbol.nonterminal?.isSome) = [] ↔
      ∀ name ∈ generator.nonterminals, name = lhs := by
  rw [List.filter_eq_nil_iff]
  constructor
  · intro none name isSelected
    by_contra different
    refine absurd rfl (none (.nonterminal name) (mem_candidates.2 ⟨?_, ?_⟩))
    · exact nonterminal_mem_pool.2 isSelected
    · exact fun same => different (Symbol.nonterminal.inj same)
  · intro all symbol isCandidate isName
    obtain ⟨inPool, different⟩ := mem_candidates.1 isCandidate
    cases symbol with
    | terminal _ => cases isName
    | nonterminal name =>
        exact different (congrArg _ (all name (nonterminal_mem_pool.1 inPool)))

/-- The root fails for want of another name where it may have a single symbol. -/
theorem alternative_failsOnly
    (some : generator.terminals ≠ [])
    (reason : isRoot = true → generator.config.rootMinSymbols = 1 →
      (∀ name ∈ generator.nonterminals, name = lhs) → allowed .nothingToChoose) :
    (generator.alternative lhs isRoot : Draw σ Alternative).FailsOnly allowed := by
  refine (Draw.between_failsOnly (generator.leastSymbols_le isRoot)).bind
    (Draw.between_gives (generator.leastSymbols_le isRoot)) ?_
  rintro count ⟨least, greatest⟩
  by_cases isShort : (isRoot && count = 1) = true
  · simp only [isShort, if_true]
    refine (Draw.choose_failsOnly fun none => ?_).andThen fun _ => .pure _
    obtain ⟨root, isOne⟩ := Bool.and_eq_true_iff.1 isShort
    have countIsOne : count = 1 := of_decide_eq_true isOne
    refine reason root ?_ (no_names_iff.1 none)
    have oneRootSymbol := generator.config.oneRootSymbol
    rw [leastSymbols, if_pos root, countIsOne] at least
    omega
  · simp only [isShort]
    refine (symbols_failsOnly (fun none => ?_) _).andThen fun _ => .pure _
    exact absurd none (candidates_ne_nil some lhs)

/-- A rule fails like its alternatives. -/
theorem rule_failsOnly
    (draws : 0 < generator.config.maxRetries →
      (generator.alternative lhs isRoot : Draw σ Alternative).FailsOnly allowed)
    (exhausts : allowed (.exhausted lhs generator.config.maxRetries)) :
    (generator.rule lhs isRoot : Draw σ Rule).FailsOnly allowed := by
  refine (Draw.between_failsOnly generator.config.alternativesOrdered).andThen fun count => ?_
  exact (alternatives_failsOnly draws exhausts _).andThen fun _ => .pure _

end Generator

namespace Expansion

variable {σ : Type} {ruleFor : String → Draw σ Rule} {allowed : GenerationError → Prop}

/-- An expansion fails like the rules that are asked for. -/
theorem rules_failsOnly
    (fails : ∀ name, (ruleFor name).FailsOnly allowed)
    (frontier : Frontier) :
    Draw.FailsOnly (rules ruleFor frontier) allowed := by
  induction frontier using rules.induct with
  | case1 unseen =>
      rw [rules]
      exact .pure _
  | case2 name waiting unseen inductionHypothesis =>
      rw [rules]
      refine (fails name).andThen fun rule => ?_
      exact (inductionHypothesis rule).andThen fun _ => .pure _

/-- An expansion from a root fails like the rules that are asked for. -/
theorem fromRoot_failsOnly
    {rootRule : Draw σ Rule}
    (failsRoot : rootRule.FailsOnly allowed)
    (fails : ∀ name, (ruleFor name).FailsOnly allowed)
    (names : List String) :
    Draw.FailsOnly (fromRoot rootRule ruleFor names) allowed := by
  refine failsRoot.andThen fun root => ?_
  exact (rules_failsOnly fails _).andThen fun _ => .pure _

end Expansion

end GrammarCorpus
