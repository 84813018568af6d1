import GrammarCorpus.Proofs.Generation
import GrammarCorpus.Proofs.Work
import Mathlib.Data.List.Perm.Subperm

namespace GrammarCorpus

/-!
# The shape of generated grammars

The size that is asked for is the number of rules: each of the selected names is
mentioned, so it has a rule, and no name has two. All other bounds are kept by one rule
at a time. `Rule.HasShape` collects what a single rule satisfies, and `Grammar.HasShape`
what the rules satisfy together.
-/

/-- What the configuration demands of a rule; it is stricter on the rule of the root. -/
structure Rule.HasShape (config : Config) (isRoot : Bool) (rule : Rule) : Prop where
  /-- The number of alternatives lies between its bounds. -/
  alternatives_least : config.minAlternatives ≤ rule.alternatives.length
  alternatives_greatest : rule.alternatives.length ≤ config.maxAlternatives
  /-- No two alternatives have the same written form. -/
  distinct : (rule.alternatives.map Alternative.text).Nodup
  /-- The numbers of symbols lie between their bounds. -/
  symbols_least : ∀ alternative ∈ rule.alternatives,
    (if isRoot then config.rootMinSymbols else config.minSymbols) ≤ alternative.length
  symbols_greatest : ∀ alternative ∈ rule.alternatives,
    alternative.length ≤ config.maxSymbols
  /-- Neither the rule itself nor the root is mentioned. -/
  notItself : rule.lhs ∉ rule.nonterminals
  notRoot : config.rootName ∉ rule.nonterminals
  /-- A single alternative is not the empty one. -/
  soleNotEmpty : ∀ alternative, rule.alternatives = [alternative] → alternative.symbols ≠ []
  /-- A single symbol of the root is a nonterminal. -/
  expands : isRoot = true → ∀ alternative ∈ rule.alternatives, alternative.length = 1 →
    ∃ name, alternative.symbols = [.nonterminal name]

/-- What the configuration demands of a grammar of some size. -/
structure Grammar.HasShape (config : Config) (size : Int) (grammar : Grammar) : Prop where
  /-- There are as many rules as were asked for, each for a name of its own. -/
  rules_length : grammar.rules.length = size
  names_nodup : grammar.names.Nodup
  /-- The first rule is that of the root; the names of all others come from the alphabet. -/
  root : ∃ root others, grammar.rules = root :: others ∧
    root.lhs = config.rootName ∧
    root.HasShape config true ∧
    ∀ rule ∈ others,
      rule.lhs ∈ Config.letters config.nonterminalAlphabet ∧ rule.HasShape config false
  /-- There are at most as many terminals as rules, and they come from the alphabet. -/
  terminals_length : grammar.terminals.length ≤ size
  terminals_subset : grammar.terminals ⊆ Config.letters config.terminalAlphabet

/-- Every rule has its shape, be it that of the root or that of another name. -/
theorem Grammar.HasShape.ruleHasShape
    {config : Config}
    {size : Int}
    {grammar : Grammar}
    (shape : grammar.HasShape config size)
    {rule : Rule}
    (member : rule ∈ grammar.rules) :
    ∃ isRoot, rule.HasShape config isRoot := by
  obtain ⟨root, others, isRules, -, rootShape, othersShape⟩ := shape.root
  rw [isRules] at member
  rcases List.mem_cons.1 member with rfl | isOther
  · exact ⟨true, rootShape⟩
  · exact ⟨false, (othersShape rule isOther).2⟩

/-- No terminal of a grammar is listed twice. -/
theorem Grammar.nodup_terminals (grammar : Grammar) : grammar.terminals.Nodup :=
  (List.mergeSort_perm _ _).nodup_iff.2 (nodup_eraseDups _)

namespace Generator

variable {generator : Generator} {root : Rule} {others : List Rule} {size : Int}

/-- A rule that fits has the shape that the configuration demands. -/
theorem RuleFits.hasShape
    {lhs : String}
    {isRoot : Bool}
    {rule : Rule}
    (fits : generator.RuleFits lhs isRoot rule)
    (outside : generator.config.rootName ∉ generator.nonterminals) :
    rule.HasShape generator.config isRoot where
  alternatives_least := fits.least
  alternatives_greatest := fits.greatest
  distinct := fits.alternativesFit.distinct
  symbols_least alternative member := (fits.alternativesFit.each alternative member).least
  symbols_greatest alternative member :=
    (fits.alternativesFit.each alternative member).greatest
  notItself mentioned := (fits.mentions mentioned).2 fits.lhs_eq
  notRoot mentioned := outside (fits.mentions mentioned).1
  soleNotEmpty alternative isSole := by
    refine fits.alternativesFit.soleNotEmpty ?_ alternative ?_
    · simp [isSole]
    · simp [isSole]
  expands isRoot alternative member :=
    (fits.alternativesFit.each alternative member).expands isRoot

namespace Yields

/-- The names behind the root are exactly the selected ones. -/
theorem names_perm
    (yields : generator.Yields root others)
    (outside : generator.config.rootName ∉ generator.nonterminals)
    (distinct : generator.nonterminals.Nodup) :
    (others.map Rule.lhs).Perm generator.nonterminals := by
  have othersDistinct := (List.nodup_cons.1 yields.expanded.nodup_names_cons).2
  refine (List.perm_ext_iff_of_nodup othersDistinct distinct).2 ?_
  intro name
  constructor
  · intro isName
    obtain ⟨rule, member, rfl⟩ := List.mem_map.1 isName
    exact (yields.expanded.lhs_mem member).1
  · intro isSelected
    obtain ⟨rule, member, mentions⟩ := yields.reached name isSelected
    exact yields.defined outside member mentions

/-- Only selected terminals occur. -/
theorem terminals_subset
    (yields : generator.Yields root others) :
    Grammar.terminals { rules := root :: others } ⊆ generator.terminals := by
  intro terminal occurs
  obtain ⟨rule, isRule, alternative, member, isSymbol⟩ := Grammar.mem_terminals.1 occurs
  obtain ⟨isRoot, fits⟩ := yields.fits isRule
  have isCandidate := (fits.alternativesFit.each alternative member).candidates _ isSymbol
  exact terminal_mem_pool.1 (mem_candidates.1 isCandidate).1

/-- No more terminals occur than have been selected. -/
theorem terminals_length_le
    (yields : generator.Yields root others) :
    (Grammar.terminals { rules := root :: others }).length ≤ generator.terminals.length :=
  (List.subperm_of_subset (Grammar.nodup_terminals _) yields.terminals_subset).length_le

/-- The rules that a generator yields form a grammar of the demanded shape. -/
theorem hasShape
    (yields : generator.Yields root others)
    (selected : generator.Selected size)
    (outside : generator.config.rootName ∉ generator.nonterminals)
    (distinct : generator.config.nonterminalAlphabet.Nodup) :
    Grammar.HasShape generator.config size { rules := root :: others } := by
  have names := yields.names_perm outside (selected.nonterminals_nodup distinct)
  have counted := names.length_eq
  have namesSelected := selected.nonterminals_length
  have terminalsSelected := selected.terminals_length
  have fewTerminals := yields.terminals_length_le
  constructor
  · simp only [List.length_map] at counted
    simp only [List.length_cons]
    omega
  · exact yields.expanded.nodup_names_cons
  · refine ⟨root, others, rfl, yields.rootFits.lhs_eq, yields.rootFits.hasShape outside, ?_⟩
    intro rule member
    have isSelected := (yields.expanded.lhs_mem member).1
    exact ⟨selected.nonterminals_subset isSelected,
      (yields.expanded.drawn_of_mem member).hasShape outside⟩
  · omega
  · exact fun terminal occurs => selected.terminals_subset (yields.terminals_subset occurs)

end Yields

end Generator

namespace Config

/--
Every generated grammar has the shape that its configuration demands, whatever a lawful
source draws, if no letter of the alphabet of nonterminals is repeated or the name of
the root.
-/
theorem generated_hasShape
    {σ : Type}
    [RandomSource σ]
    [LawfulRandomSource σ]
    (config : Config)
    (size : Int)
    (state : σ)
    {grammar : Grammar}
    (distinct : config.nonterminalAlphabet.Nodup)
    (outside : config.rootName ∉ letters config.nonterminalAlphabet)
    (generated : ((config.generate size).run.run state).1 = .ok (some grammar)) :
    grammar.HasShape config size := by
  obtain ⟨generator, root, others, rfl, selected, rfl, yields⟩ :=
    config.generate_gives size state _ generated grammar rfl
  refine yields.hasShape selected ?_ distinct
  intro isSelected
  exact outside (selected.nonterminals_subset isSelected)

/-- Some answers in turn lead to a grammar whose names stand in the order of their mention. -/
theorem generated_hasShape_in_turn :
    let config : Config := { maxSymbols := 2, maxAlternatives := 2 }
    let grammar : Grammar :=
      { rules := [
          ⟨"root", [⟨[.nonterminal "B", .terminal "a"]⟩]⟩,
          ⟨"B", [⟨[.nonterminal "A"]⟩]⟩,
          ⟨"A", [⟨[.terminal "c"]⟩]⟩] }
    config.nonterminalAlphabet.Nodup ∧
      config.rootName ∉ letters config.nonterminalAlphabet ∧
      ((config.generate 3).run.run (InTurn.mk 50)).1 = .ok (some grammar) ∧
      grammar.HasShape config 3 := by
  intro config grammar
  have distinct : config.nonterminalAlphabet.Nodup := by decide +kernel
  have outside : config.rootName ∉ letters config.nonterminalAlphabet := by decide +kernel
  have generated :
      ((config.generate 3).run.run (InTurn.mk 50)).1 = .ok (some grammar) :=
    eq_ok_of_toOption (by decide +kernel)
  exact ⟨distinct, outside, generated,
    config.generated_hasShape 3 (InTurn.mk 50) distinct outside generated⟩

end Config

end GrammarCorpus
