import GrammarCorpus.Proofs.DrawnRule
import GrammarCorpus.Proofs.Expansion

namespace GrammarCorpus

/-!
# What generated grammars consist of

A grammar that has been generated is the record of its generation: the part of the
alphabets that was selected for it, the rule of the root, and an expansion of what that
rule mentions. `Generator.Selected` is the first and `Generator.Yields` the rest. All
properties of generated grammars are drawn from these two.
-/

namespace Config

/-- Different characters have different texts. -/
theorem nodup_letters
    {alphabet : List Char}
    (distinct : alphabet.Nodup) :
    (letters alphabet).Nodup := by
  refine distinct.map ?_
  intro letter other same
  exact List.singleton_inj.1 (String.ofList_injective same)

end Config

namespace Generator

/-- What has been selected from the alphabets for a grammar of some size. -/
structure Selected (generator : Generator) (size : Int) : Prop where
  two_le : 2 ≤ size
  le_maxSize : size ≤ generator.config.maxSize
  nonterminals_subset :
    generator.nonterminals ⊆ Config.letters generator.config.nonterminalAlphabet
  nonterminals_length : generator.nonterminals.length + 1 = size
  nonterminals_nodup :
    generator.config.nonterminalAlphabet.Nodup → generator.nonterminals.Nodup
  terminals_subset :
    generator.terminals ⊆ Config.letters generator.config.terminalAlphabet
  terminals_length : generator.terminals.length = size

/-- The rules of a grammar that a generator yields, the root in front. -/
structure Yields (generator : Generator) (root : Rule) (others : List Rule) : Prop where
  rootFits : generator.RuleFits generator.config.rootName true root
  expanded : Expansion.Expanded
    (fun rule => generator.RuleFits rule.lhs false rule)
    (Expansion.behind root generator.nonterminals) others
  isProductive : Grammar.isProductive { rules := root :: others } = true
  reached : ∀ name ∈ generator.nonterminals,
    ∃ rule ∈ root :: others, name ∈ rule.nonterminals

/-- The candidates for a name are the selected symbols without the name itself. -/
theorem mem_candidates
    {generator : Generator}
    {lhs : String}
    {symbol : Symbol} :
    symbol ∈ generator.candidates lhs ↔
      symbol ∈ generator.pool ∧ symbol ≠ .nonterminal lhs := by
  simp [candidates]

/-- The nonterminals that may be drawn are the selected names. -/
theorem nonterminal_mem_pool {generator : Generator} {name : String} :
    .nonterminal name ∈ generator.pool ↔ name ∈ generator.nonterminals := by
  simp [pool]

/-- The terminals that may be drawn are the selected ones. -/
theorem terminal_mem_pool {generator : Generator} {name : String} :
    .terminal name ∈ generator.pool ↔ name ∈ generator.terminals := by
  simp [pool]

/-- A rule that fits mentions selected names only, and never its own. -/
theorem RuleFits.mentions
    {generator : Generator}
    {lhs : String}
    {isRoot : Bool}
    {rule : Rule}
    (fits : generator.RuleFits lhs isRoot rule)
    {name : String}
    (mentioned : name ∈ rule.nonterminals) :
    name ∈ generator.nonterminals ∧ name ≠ lhs := by
  obtain ⟨alternative, member, isSymbol⟩ := Rule.mem_nonterminals.1 mentioned
  have isCandidate := (fits.alternativesFit.each alternative member).candidates _ isSymbol
  obtain ⟨inPool, different⟩ := mem_candidates.1 isCandidate
  exact ⟨nonterminal_mem_pool.1 inPool, fun same => different (congrArg _ same)⟩

namespace Yields

variable {generator : Generator} {root : Rule} {others : List Rule}

/-- Every rule fits. -/
theorem fits
    (yields : generator.Yields root others)
    {rule : Rule}
    (member : rule ∈ root :: others) :
    ∃ isRoot, generator.RuleFits rule.lhs isRoot rule := by
  rcases List.mem_cons.1 member with rfl | isOther
  · exact ⟨true, yields.rootFits.lhs_eq.symm ▸ yields.rootFits⟩
  · exact ⟨false, yields.expanded.drawn_of_mem isOther⟩

/-- Every mentioned name has a rule behind the root, unless the root has been selected. -/
theorem defined
    (yields : generator.Yields root others)
    (outside : generator.config.rootName ∉ generator.nonterminals)
    {rule : Rule}
    (member : rule ∈ root :: others)
    {name : String}
    (mentions : name ∈ rule.nonterminals) :
    name ∈ others.map Rule.lhs := by
  obtain ⟨isRoot, fits⟩ := yields.fits member
  have isSelected := (fits.mentions mentions).1
  refine yields.expanded.defined member mentions isSelected ?_
  intro same
  exact outside (yields.rootFits.lhs_eq ▸ same ▸ isSelected)

end Yields

variable {σ : Type} [RandomSource σ] [LawfulRandomSource σ]

/-- A grammar that is drawn consists of rules that the generator yields. -/
theorem grammar_gives (generator : Generator) :
    (generator.grammar : Draw σ (Option Grammar)).Gives fun result =>
      ∀ grammar, result = some grammar →
        ∃ root others, grammar = { rules := root :: others } ∧
          generator.Yields root others := by
  have expands :
      Draw.Gives
        (Expansion.fromRoot
          (generator.rule generator.config.rootName true : Draw σ Rule)
          (fun name => generator.rule name false)
          generator.nonterminals)
        (Expansion.ExpandedFromRoot
          (generator.RuleFits generator.config.rootName true)
          (fun rule => generator.RuleFits rule.lhs false rule)
          generator.nonterminals) := by
    refine Expansion.fromRoot_gives (generator.rule_gives _ _) ?_ _
    intro name
    refine (generator.rule_gives name false).mono ?_
    intro rule fits
    exact ⟨fits.lhs_eq, fits.lhs_eq.symm ▸ fits⟩
  refine expands.bind ?_
  rintro _ ⟨rootFits, expanded⟩
  refine .pure ?_
  intro grammar accepted
  obtain ⟨rfl, isProductive, reached⟩ := Expansion.accept?_eq_some accepted
  exact ⟨_, _, rfl, rootFits, expanded, isProductive, reached⟩

end Generator

namespace Config

/-- A grammar that is given up needs to have no property. -/
theorem giveUpWhenExhausted_gives
    {σ α : Type}
    {draw : Draw σ (Option α)}
    {property : Option α → Prop}
    (gives : draw.Gives property)
    (none : property none) :
    (giveUpWhenExhausted draw).Gives property := by
  refine gives.tryCatch ?_
  intro error
  cases error with
  | exhausted lhs retries => exact .pure none
  | _ => exact .throw _

variable {σ : Type} [RandomSource σ] [LawfulRandomSource σ]

/-- What is selected comes from the alphabets, in the numbers that the size demands. -/
theorem selectAlphabet_gives (config : Config) (size : Int) :
    (config.selectAlphabet size : Draw σ (List String × List String)).Gives fun selected =>
      Generator.Selected ⟨config, selected.1, selected.2⟩ size := by
  unfold selectAlphabet
  by_cases tooSmall : size < 2
  · simp only [tooSmall, if_true]
    exact .throw _
  by_cases tooLarge : config.maxSize < size
  · simp only [tooSmall, tooLarge, if_true, if_false]
    exact .throw _
  simp only [tooSmall, tooLarge, if_false]
  have enough : size.toNat - 1 ≤ (letters config.nonterminalAlphabet).length ∧
      size.toNat ≤ (letters config.terminalAlphabet).length := by
    simp only [letters, List.length_map]
    unfold Settings.maxSize at tooLarge
    omega
  refine ((Draw.sample_gives_subset _ _).and (Draw.sample_gives_length enough.1)).bind ?_
  rintro nonterminals ⟨nonterminalsSubset, nonterminalsLength, nonterminalsNodup⟩
  refine ((Draw.sample_gives_subset _ _).and (Draw.sample_gives_length enough.2)).bind ?_
  rintro terminals ⟨terminalsSubset, terminalsLength, -⟩
  refine .pure ?_
  constructor
  · exact Int.not_lt.1 tooSmall
  · exact Int.not_lt.1 tooLarge
  · exact nonterminalsSubset
  · simp only [nonterminalsLength]
    omega
  · exact fun distinct => nonterminalsNodup (nodup_letters distinct)
  · exact terminalsSubset
  · simp only [terminalsLength]
    omega

/-- Every generated grammar consists of rules that some generator of its size yields. -/
theorem generate_gives (config : Config) (size : Int) :
    (config.generate size : Draw σ (Option Grammar)).Gives fun result =>
      ∀ grammar, result = some grammar →
        ∃ (generator : Generator) (root : Rule) (others : List Rule),
          generator.config = config ∧
            generator.Selected size ∧
            grammar = { rules := root :: others } ∧
            generator.Yields root others := by
  refine (config.selectAlphabet_gives size).bind ?_
  rintro ⟨nonterminals, terminals⟩ selected
  refine giveUpWhenExhausted_gives ?_ ?_
  · refine (Generator.grammar_gives _).mono ?_
    intro result gives grammar isResult
    obtain ⟨root, others, same, yields⟩ := gives grammar isResult
    exact ⟨_, root, others, rfl, selected, same, yields⟩
  · intro grammar isResult
    cases isResult

/-- Bounds that are both one are in order. -/
theorem oneOrdered : (1 : Int) ≤ 1 :=
  Int.le_refl 1

/-- Bounds of one and of three are in order. -/
theorem threeOrdered : (1 : Int) ≤ 3 :=
  Int.ofNat_le.2 (Nat.le_add_right 1 2)

/-- A configuration that leaves nothing to chance: one name, one letter, one of each. -/
def chanceless : Config :=
  { maxAlternatives := 1
    minSymbols := 1
    maxSymbols := 1
    nonterminalAlphabet := ['A']
    terminalAlphabet := ['a', 'a']
    oneAlternative := oneOrdered
    alternativesOrdered := oneOrdered
    symbolsNonnegative := Int.one_nonneg
    symbolsOrdered := oneOrdered
    oneRootSymbol := oneOrdered
    rootSymbolsOrdered := oneOrdered }

/-- The only grammar of size two that can be drawn then. -/
def onlyGrammar : Grammar where
  rules := [
    { lhs := "root", alternatives := [{ symbols := [.nonterminal "A"] }] },
    { lhs := "A", alternatives := [{ symbols := [.terminal "a"] }] }]

/-- Whatever a lawful source answers, the grammar is the same. -/
theorem generate_chanceless :
    (chanceless.generate 2 : Draw σ (Option Grammar)).Settles (some onlyGrammar) := by
  have selects : (chanceless.selectAlphabet 2 : Draw σ (List String × List String)).Settles
      (["A"], ["a", "a"]) := by
    have names : (Draw.sample (letters ['A']) 1 : Draw σ (List String)).Settles ["A"] :=
      Draw.sample_settles (by decide) (by decide)
    have terminals : (Draw.sample (letters ['a', 'a']) 2 : Draw σ (List String)).Settles
        ["a", "a"] :=
      Draw.sample_settles (by decide) (by decide)
    exact names.bind (terminals.bind (.pure _))
  have draws : ∀ lhs isRoot symbol,
      (Generator.alternative ⟨chanceless, ["A"], ["a", "a"]⟩ lhs isRoot : Draw σ _).Settles
        { symbols := [symbol] } →
      (Generator.rule ⟨chanceless, ["A"], ["a", "a"]⟩ lhs isRoot : Draw σ Rule).Settles
        { lhs, alternatives := [{ symbols := [symbol] }] } := by
    intro lhs isRoot symbol alternative
    refine (Draw.between_settles 1).bind (.bind (.bind (.bind alternative ?_) (.pure _)) (.pure _))
    rw [show Generator.isFresh _ _ _ = true from rfl]
    exact .pure _
  have root := draws "root" true (.nonterminal "A")
    ((Draw.between_settles 1).bind
      ((Draw.choose_settles (by decide) (by decide)).bind (.pure _)))
  have name := draws "A" false (.terminal "a")
    ((Draw.between_settles 1).bind
      (.bind (.bind (Draw.choose_settles (by decide) (by decide)) (.pure _)) (.pure _)))
  have others : ∀ unseen, (Expansion.rules
      (fun name => Generator.rule ⟨chanceless, ["A"], ["a", "a"]⟩ name false)
      { waiting := ["A"], unseen } : Draw σ (List Rule)).Settles
        [{ lhs := "A", alternatives := [{ symbols := [.terminal "a"] }] }] := by
    intro unseen
    rw [Expansion.rules]
    refine name.bind ?_
    rw [show Rule.nonterminals _ = [] from rfl, List.foldl_nil, Expansion.rules]
    exact .pure _
  have expands : (Expansion.fromRoot
      (Generator.rule ⟨chanceless, ["A"], ["a", "a"]⟩ "root" true)
      (fun name => Generator.rule ⟨chanceless, ["A"], ["a", "a"]⟩ name false) ["A"] :
        Draw σ (List Rule)).Settles onlyGrammar.rules := by
    refine root.bind (.bind ?_ (.pure _))
    rw [show List.foldl Frontier.enqueue _ _ = { waiting := ["A"], unseen := [] } by decide]
    exact others []
  have accepted : Expansion.accept? ["A"] onlyGrammar.rules = some onlyGrammar := by
    decide +kernel
  refine selects.bind (.tryCatch (expands.bind ?_))
  rw [← accepted]
  exact .pure _

end Config

end GrammarCorpus
