import GrammarCorpus.Proofs.Draw

namespace GrammarCorpus

/-!
# What drawn rules satisfy

The bounds of the configuration, the pool of symbols and the refusals of the generator
each leave their mark on a rule. `AlternativeFits` and `RuleFits` say which: they hold of
every alternative and of every rule that is drawn with a lawful source, however often
alternatives had to be drawn again.
-/

namespace Generator

/-- What every alternative satisfies that is drawn for a name. -/
structure AlternativeFits
    (generator : Generator)
    (lhs : String)
    (isRoot : Bool)
    (alternative : Alternative) : Prop where
  candidates : ∀ symbol ∈ alternative.symbols, symbol ∈ generator.candidates lhs
  least : generator.leastSymbols isRoot ≤ alternative.length
  greatest : alternative.length ≤ generator.config.maxSymbols
  expands : isRoot = true → alternative.length = 1 →
    ∃ name, alternative.symbols = [.nonterminal name]

/-- What the alternatives of one rule satisfy together. -/
structure AlternativesFit
    (generator : Generator)
    (lhs : String)
    (isRoot sole : Bool)
    (alternatives : List Alternative) : Prop where
  each : ∀ alternative ∈ alternatives, generator.AlternativeFits lhs isRoot alternative
  distinct : (alternatives.map Alternative.text).Nodup
  soleNotEmpty : sole = true → ∀ alternative ∈ alternatives, alternative.symbols ≠ []

/-- What every rule satisfies that is drawn for a name. -/
structure RuleFits
    (generator : Generator)
    (lhs : String)
    (isRoot : Bool)
    (rule : Rule) : Prop where
  lhs_eq : rule.lhs = lhs
  least : generator.config.minAlternatives ≤ rule.alternatives.length
  greatest : rule.alternatives.length ≤ generator.config.maxAlternatives
  alternativesFit :
    generator.AlternativesFit lhs isRoot (rule.alternatives.length = 1) rule.alternatives

variable {σ : Type} [RandomSource σ]

/-- So many symbols are drawn, each of them a candidate. -/
theorem symbols_gives (candidates : List Symbol) (count : Nat) :
    (symbols candidates count : Draw σ (List Symbol)).Gives fun drawn =>
      drawn.length = count ∧ ∀ symbol ∈ drawn, symbol ∈ candidates := by
  induction count with
  | zero =>
      refine .pure ⟨rfl, ?_⟩
      intro symbol member
      cases member
  | succ count inductionHypothesis =>
      refine (Draw.choose_gives candidates).bind ?_
      intro first isCandidate
      refine inductionHypothesis.bind ?_
      rintro others ⟨length, areCandidates⟩
      exact .pure ⟨congrArg (· + 1) length,
        List.forall_mem_cons.2 ⟨isCandidate, areCandidates⟩⟩

/-- The least number of symbols is not negative. -/
theorem leastSymbols_nonneg (generator : Generator) (isRoot : Bool) :
    0 ≤ generator.leastSymbols isRoot := by
  have oneRootSymbol := generator.config.oneRootSymbol
  have symbolsNonnegative := generator.config.symbolsNonnegative
  unfold leastSymbols
  split <;> omega

/-- The least number of symbols does not exceed the greatest. -/
theorem leastSymbols_le (generator : Generator) (isRoot : Bool) :
    generator.leastSymbols isRoot ≤ generator.config.maxSymbols := by
  have rootSymbolsOrdered := generator.config.rootSymbolsOrdered
  have symbolsOrdered := generator.config.symbolsOrdered
  unfold leastSymbols
  split <;> omega

section Lawful

variable [LawfulRandomSource σ]

/-- Every drawn alternative fits. -/
theorem alternative_gives
    (generator : Generator)
    (lhs : String)
    (isRoot : Bool) :
    (generator.alternative lhs isRoot : Draw σ Alternative).Gives
      (generator.AlternativeFits lhs isRoot) := by
  refine (Draw.between_gives (generator.leastSymbols_le isRoot)).bind ?_
  rintro count ⟨least, greatest⟩
  have nonnegative := generator.leastSymbols_nonneg isRoot
  by_cases isShort : (isRoot && count = 1) = true
  · -- A single symbol of the root is drawn from the nonterminals alone.
    simp only [isShort, if_true]
    refine (Draw.choose_gives _).bind ?_
    intro symbol member
    obtain ⟨isCandidate, isName⟩ := List.mem_filter.1 member
    have isOne : count = 1 := of_decide_eq_true (Bool.and_eq_true_iff.1 isShort).2
    subst isOne
    refine .pure ⟨?_, least, greatest, ?_⟩
    · intro other isOnly
      exact List.mem_singleton.1 isOnly ▸ isCandidate
    · intro _ _
      cases symbol with
      | terminal _ => cases isName
      | nonterminal name => exact ⟨name, rfl⟩
  · simp only [isShort]
    refine (symbols_gives _ _).bind ?_
    rintro drawn ⟨length, areCandidates⟩
    have counted : (drawn.length : Int) = count := by omega
    rw [← counted] at least greatest
    refine .pure ⟨areCandidates, least, greatest, ?_⟩
    intro root isOne
    have isOneToo : drawn.length = 1 := isOne
    exact absurd (by simp [root]; omega) isShort

/-- Every alternative that is accepted fits and is fresh. -/
theorem freshWithin_gives
    (generator : Generator)
    (lhs : String)
    (isRoot sole : Bool)
    (taken : List Alternative)
    (retries : Nat) :
    (generator.freshWithin lhs isRoot sole taken retries : Draw σ Alternative).Gives
      fun drawn => generator.AlternativeFits lhs isRoot drawn ∧ isFresh sole taken drawn := by
  induction retries with
  | zero => exact .throw _
  | succ retries inductionHypothesis =>
      refine (generator.alternative_gives lhs isRoot).bind ?_
      intro drawn fits
      by_cases fresh : isFresh sole taken drawn = true
      · simp only [fresh, if_true]
        exact .pure ⟨fits, fresh⟩
      · simp only [fresh]
        exact inductionHypothesis

/-- A fresh alternative can join those that fit. -/
theorem AlternativesFit.concat
    {generator : Generator}
    {lhs : String}
    {isRoot sole : Bool}
    {taken : List Alternative}
    {drawn : Alternative}
    (fit : generator.AlternativesFit lhs isRoot sole taken)
    (fits : generator.AlternativeFits lhs isRoot drawn)
    (fresh : isFresh sole taken drawn = true) :
    generator.AlternativesFit lhs isRoot sole (taken ++ [drawn]) := by
  obtain ⟨notVacuous, notTaken⟩ := Bool.and_eq_true_iff.1 fresh
  constructor
  · intro alternative member
    rcases List.mem_append.1 member with isTaken | isDrawn
    · exact fit.each alternative isTaken
    · exact List.mem_singleton.1 isDrawn ▸ fits
  · rw [List.map_append]
    refine List.Nodup.append fit.distinct (List.nodup_singleton _) ?_
    intro text isTaken isDrawn
    have same : text = drawn.text := List.mem_singleton.1 isDrawn
    simp [← same, isTaken] at notTaken
  · intro isSole alternative member
    rcases List.mem_append.1 member with isTaken | isDrawn
    · exact fit.soleNotEmpty isSole alternative isTaken
    · rw [List.mem_singleton.1 isDrawn]
      simpa [isSole, Alternative.isEmpty] using notVacuous

/-- So many alternatives join those that fit, and all of them fit together. -/
theorem alternatives_gives
    (generator : Generator)
    (lhs : String)
    (isRoot sole : Bool)
    {taken : List Alternative}
    (count : Nat)
    (fit : generator.AlternativesFit lhs isRoot sole taken) :
    (generator.alternatives lhs isRoot sole taken count : Draw σ (List Alternative)).Gives
      fun drawn =>
        drawn.length = taken.length + count ∧
          generator.AlternativesFit lhs isRoot sole drawn := by
  induction count generalizing taken with
  | zero => exact .pure ⟨rfl, fit⟩
  | succ count inductionHypothesis =>
      refine (generator.freshWithin_gives lhs isRoot sole taken _).bind ?_
      rintro drawn ⟨fits, fresh⟩
      refine (inductionHypothesis (fit.concat fits fresh)).mono ?_
      rintro all ⟨length, fitTogether⟩
      refine ⟨?_, fitTogether⟩
      rw [length, List.length_append, List.length_singleton]
      omega

/-- Every drawn rule fits. -/
theorem rule_gives
    (generator : Generator)
    (lhs : String)
    (isRoot : Bool) :
    (generator.rule lhs isRoot : Draw σ Rule).Gives (generator.RuleFits lhs isRoot) := by
  refine (Draw.between_gives generator.config.alternativesOrdered).bind ?_
  rintro count ⟨least, greatest⟩
  have oneAlternative := generator.config.oneAlternative
  have none : generator.AlternativesFit lhs isRoot (count = 1) [] := by
    constructor <;> simp
  refine (generator.alternatives_gives lhs isRoot (count = 1) count.toNat none).bind ?_
  rintro drawn ⟨length, fit⟩
  have counted : (drawn.length : Int) = count := by
    rw [length, List.length_nil]
    omega
  have isSole : (drawn.length = 1) = (count = 1) := by
    apply propext
    omega
  rw [← counted] at least greatest
  refine .pure ⟨rfl, least, greatest, ?_⟩
  simpa only [isSole] using fit

end Lawful

end Generator

end GrammarCorpus
