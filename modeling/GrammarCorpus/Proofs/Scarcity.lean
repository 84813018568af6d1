import GrammarCorpus.Proofs.Asking
import GrammarCorpus.Proofs.Totality
import Mathlib.Algebra.Order.BigOperators.Group.Finset
import Mathlib.Order.Interval.Finset.Nat

namespace GrammarCorpus

/-!
# Fewer forms than alternatives

The alternatives of one rule have different texts, and there are only so many sequences of
candidates that a root alternative can be. Where the configuration demands more alternatives
than that, no rule for the root can be drawn, so no grammar is: every generation is given up
after a bounded number of questions, whatever the source answers.
-/

namespace Generator

/-- The sequences of so many candidates. -/
def words (candidates : List Symbol) : Nat → List (List Symbol)
  | 0 => [[]]
  | count + 1 =>
      candidates.flatMap fun first => (words candidates count).map (first :: ·)

/-- There are as many as the choices for each place allow. -/
theorem length_words (candidates : List Symbol) (count : Nat) :
    (words candidates count).length = candidates.length ^ count := by
  induction count with
  | zero => rfl
  | succ count inductionHypothesis =>
      simp [words, inductionHypothesis, Nat.pow_succ, Nat.mul_comm]

/-- Candidates in any order are one of the sequences of their number. -/
theorem mem_words
    {candidates symbols : List Symbol}
    (areCandidates : symbols ⊆ candidates) :
    symbols ∈ words candidates symbols.length := by
  induction symbols with
  | nil => exact List.mem_singleton_self []
  | cons first others inductionHypothesis =>
      obtain ⟨isCandidate, areOthers⟩ := List.cons_subset.1 areCandidates
      refine List.mem_flatMap.2 ⟨first, isCandidate, ?_⟩
      exact List.mem_map.2 ⟨others, inductionHypothesis areOthers, rfl⟩

variable {generator : Generator}

/-- The root alternatives of a length: a single symbol is a name. -/
def rootForms (generator : Generator) (length : Nat) : List Alternative :=
  if length = 1 then
    generator.nonterminals.map fun name => { symbols := [.nonterminal name] }
  else
    (words generator.pool length).map Alternative.mk

/-- What is drawn for the root is one of the alternatives of its length. -/
theorem AlternativeFits.mem_rootForms
    {lhs : String}
    {alternative : Alternative}
    (fits : generator.AlternativeFits lhs true alternative) :
    alternative ∈ generator.rootForms alternative.length := by
  have inPool : alternative.symbols ⊆ generator.pool := fun symbol member =>
    (mem_candidates.1 (fits.candidates symbol member)).1
  obtain ⟨symbols⟩ := alternative
  rw [rootForms]
  split
  · rename_i isOne
    obtain ⟨name, rfl⟩ := fits.expands rfl isOne
    have isSelected := nonterminal_mem_pool.1 (inPool List.mem_cons_self)
    exact List.mem_map.2 ⟨name, isSelected, rfl⟩
  · exact List.mem_map.2 ⟨symbols, mem_words inPool, rfl⟩

end Generator

namespace Config

variable {config : Config} {size : Int}

/-- The number of root alternatives of a length, in a grammar of some size. -/
def rootFormCountOf (size : Int) (length : Nat) : Nat :=
  if length = 1 then (size - 1).toNat else (2 * size - 1).toNat ^ length

/-- The numbers of symbols that the configuration allows in a root alternative. -/
def rootLengths (config : Config) : Finset Nat :=
  Finset.Icc config.rootMinSymbols.toNat config.maxSymbols.toNat

/-- The number of root alternatives of all lengths that the configuration allows. -/
def rootFormCount (config : Config) (size : Int) : Nat :=
  ∑ length ∈ config.rootLengths, rootFormCountOf size length

end Config

namespace Generator

variable {generator : Generator} {size : Int}

/-- The selected symbols leave so many alternatives of a length. -/
theorem Selected.length_rootForms
    (selected : generator.Selected size)
    (length : Nat) :
    (generator.rootForms length).length = Config.rootFormCountOf size length := by
  have names := selected.nonterminals_length
  have terminals := selected.terminals_length
  rw [rootForms, Config.rootFormCountOf]
  split
  · rw [List.length_map]
    omega
  · rw [List.length_map, length_words, pool, List.length_append, List.length_map,
      List.length_map]
    congr 1
    omega

/-- No rule for the root has more alternatives than there are forms for them. -/
theorem RuleFits.length_le_rootFormCount
    {lhs : String}
    {root : Rule}
    (fits : generator.RuleFits lhs true root)
    (selected : generator.Selected size) :
    root.alternatives.length ≤ generator.config.rootFormCount size := by
  have distinct : root.alternatives.Nodup := fits.alternativesFit.distinct.of_map
  have covered : root.alternatives.toFinset ⊆
      generator.config.rootLengths.biUnion fun length =>
        (generator.rootForms length).toFinset := by
    intro alternative member
    have drawn := fits.alternativesFit.each alternative (List.mem_toFinset.1 member)
    refine Finset.mem_biUnion.2 ⟨alternative.length, Finset.mem_Icc.2 ?_,
      List.mem_toFinset.2 drawn.mem_rootForms⟩
    exact ⟨Int.toNat_le.2 drawn.least, Int.toNat_le_toNat drawn.greatest⟩
  calc
    root.alternatives.length = root.alternatives.toFinset.card :=
      (List.toFinset_card_of_nodup distinct).symm
    _ ≤ _ := Finset.card_le_card covered
    _ ≤ ∑ length ∈ generator.config.rootLengths, (generator.rootForms length).toFinset.card :=
      Finset.card_biUnion_le
    _ ≤ generator.config.rootFormCount size := Finset.sum_le_sum fun length _ => by
      rw [← selected.length_rootForms length]
      exact List.toFinset_card_le _

end Generator

namespace Config

variable {config : Config} {size : Int}

/-- A generation from too few forms gives no grammar. -/
theorem generate_gives_none
    {σ : Type}
    [RandomSource σ]
    [LawfulRandomSource σ]
    (scarce : config.rootFormCount size < config.minAlternatives) :
    (config.generate size : Draw σ (Option Grammar)).Gives (· = none) := by
  refine (config.generate_gives size).mono fun result gives => ?_
  cases result with
  | none => rfl
  | some grammar =>
      obtain ⟨generator, root, others, rfl, selected, -, yields⟩ := gives grammar rfl
      have few := yields.rootFits.length_le_rootFormCount selected
      have many := yields.rootFits.least
      omega

/--
Where more alternatives are demanded than there are forms for a root alternative, and the name of
the root is not a letter, generation always ends with the grammar given up. It never fails and
never gives a grammar, whatever a lawful source answers and however often alternatives may be
drawn again, and it asks a bounded number of questions.
-/
theorem generate_gives_up_of_scarce
    (outside : config.rootName ∉ letters config.nonterminalAlphabet)
    (two_le : 2 ≤ size)
    (le_maxSize : size ≤ config.maxSize)
    (scarce : config.rootFormCount size < config.minAlternatives)
    (σ : Type)
    [RandomSource σ]
    [LawfulRandomSource σ]
    (state : σ) :
    ((config.generate size).run.run state).1 = .ok none ∧
      ∃ asked ≤ config.questions size,
        (config.generate size).run.run (Tally.mk state 0) =
          (.ok none, Tally.mk ((config.generate size).run.run state).2 asked) := by
  have enough : ¬ config.MayLackNames size := not_mayLackNames_of_notMem outside two_le
  have ends : ((config.generate size).run.run state).1 = .ok none := by
    obtain ⟨result, gives⟩ := (generate_failsOnly two_le le_maxSize).exists_ok
      (fun error lacks => enough lacks.2) state
    obtain rfl := generate_gives_none scarce state result gives
    exact gives
  obtain ⟨asked, few, tallied⟩ := config.generate_asks size (Tally.mk state 0)
  refine ⟨ends, asked, few, ?_⟩
  rw [tallied, ends, Nat.zero_add]

/-- A configuration that demands three alternatives of one symbol each. -/
def threeSingles : Config :=
  { minAlternatives := 3
    minSymbols := 1
    maxSymbols := 1
    maxRetries := 10
    oneAlternative := threeOrdered
    alternativesOrdered := Int.le_refl 3
    symbolsNonnegative := Int.one_nonneg
    symbolsOrdered := oneOrdered
    oneRootSymbol := oneOrdered
    rootSymbolsOrdered := oneOrdered }

/-- A grammar of size two has one name besides the root, so it has no three of them. -/
theorem generate_gives_up_of_threeSingles :
    threeSingles.rootName ∉ letters threeSingles.nonterminalAlphabet ∧
      2 ≤ threeSingles.maxSize ∧
      threeSingles.rootFormCount 2 = 1 ∧
      ∀ state : InTurn,
        ((threeSingles.generate 2).run.run state).1 = .ok none ∧
          ∃ asked ≤ threeSingles.questions 2,
            (threeSingles.generate 2).run.run (Tally.mk state 0) =
              (.ok none, Tally.mk ((threeSingles.generate 2).run.run state).2 asked) := by
  have outside : threeSingles.rootName ∉ letters threeSingles.nonterminalAlphabet := by
    decide +kernel
  have two_le_maxSize : 2 ≤ threeSingles.maxSize := by decide +kernel
  have one : threeSingles.rootFormCount 2 = 1 := by decide +kernel
  have scarce : (threeSingles.rootFormCount 2 : Int) < threeSingles.minAlternatives := by
    rw [one]
    decide
  refine ⟨outside, two_le_maxSize, one, fun state => ?_⟩
  exact generate_gives_up_of_scarce outside (Int.le_refl 2) (Int.ofNat_le.2 two_le_maxSize) scarce
    InTurn state

end Config

end GrammarCorpus
