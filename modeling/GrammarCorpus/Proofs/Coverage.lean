import GrammarCorpus.Proofs.Attainment
import GrammarCorpus.Proofs.Derivation
import GrammarCorpus.Proofs.GrammarShape
import GrammarCorpus.Proofs.Totality

namespace GrammarCorpus

/-!
# All grammars of a class can be generated

What a configuration admits as a grammar of some size is said of the grammar alone: its shape,
the order of its names, and that every name behind the root leads to a word. Nothing else is
asked for by the generator. An admitted grammar is the record of a generation: its names and
terminals can be selected, its rules fit, and an expansion that goes by the first mention of
names comes upon them in their order.
-/

/-- What a configuration admits as a grammar of some size. -/
structure Grammar.IsAdmitted (config : Config) (size : Int) (grammar : Grammar) : Prop where
  hasShape : grammar.HasShape config size
  /-- Behind the root stand exactly the names that are mentioned, in the order of their first
  appearance when the rules are read one after another. -/
  inOrder : grammar.names =
    config.rootName ::
      ((grammar.rules.flatMap Rule.nonterminals).filter (· ≠ config.rootName)).eraseDups
  /-- Some word can be derived from every name behind the root. -/
  completes : ∀ rule ∈ grammar.rules.drop 1,
    (grammar.rewriting config.rootName).Completes [.nonterminal rule.lhs]

namespace Expansion

/--
Of names that stand in the order of their first mention none is first, unless one is mentioned
by its own rule: those that are shown by the first rules are never as many as these.
-/
theorem eq_nil_of_names_eq
    {rules : List Rule}
    {earlier shown unseen : List String}
    (notItself : ∀ rule ∈ rules, rule.lhs ∉ rule.nonterminals)
    (few : shown.length ≤ earlier.length)
    (names : earlier ++ rules.map Rule.lhs =
      shown ++ Frontier.fresh (rules.flatMap Rule.nonterminals) unseen) :
    rules = [] ∧ shown.length = earlier.length := by
  induction rules generalizing earlier shown unseen with
  | nil =>
      refine ⟨rfl, ?_⟩
      simpa [Frontier.fresh] using (congrArg List.length names).symm
  | cons rule later inductionHypothesis =>
      rw [List.flatMap_cons, fresh_append, ← List.append_assoc, List.map_cons,
        List.append_cons] at names
      have longer : (earlier ++ [rule.lhs]).length = earlier.length + 1 := List.length_append
      have fewer : (shown ++ Frontier.fresh rule.nonterminals unseen).length ≤
          earlier.length := by
        by_contra more
        -- Otherwise the name of the rule is one of those that the rule itself shows.
        have inFront : earlier ++ [rule.lhs] <+:
            shown ++ Frontier.fresh rule.nonterminals unseen :=
          List.prefix_of_prefix_length_le (names ▸ List.prefix_append _ _)
            (List.prefix_append _ _) (by omega)
        obtain ⟨rest, whole⟩ := inFront
        have atPlace : (shown ++ Frontier.fresh rule.nonterminals unseen)[earlier.length]? =
            some rule.lhs := by
          rw [← whole]
          simp
        rw [List.getElem?_append_right few] at atPlace
        have isFresh := Frontier.mem_fresh.1 (List.mem_of_getElem? atPlace)
        exact notItself rule List.mem_cons_self isFresh.1
      have same := (inductionHypothesis (List.forall_mem_cons.1 notItself).2 (by omega) names).2
      omega

/--
Rules that stand behind the waiting names in the order of their first mention are yielded by an
expansion, unless one of them mentions itself.
-/
theorem Expanded.of_names_eq
    {drawn : Rule → Prop}
    {frontier : Frontier}
    {rules : List Rule}
    (areDrawn : ∀ rule ∈ rules, drawn rule)
    (notItself : ∀ rule ∈ rules, rule.lhs ∉ rule.nonterminals)
    (names : rules.map Rule.lhs =
      frontier.waiting ++ Frontier.fresh (rules.flatMap Rule.nonterminals) frontier.unseen) :
    Expanded drawn frontier rules := by
  obtain ⟨waiting, unseen⟩ := frontier
  simp only at names
  induction rules generalizing waiting unseen with
  | nil =>
      obtain ⟨rfl, -⟩ := List.append_eq_nil_iff.1 names.symm
      exact .done
  | cons rule later inductionHypothesis =>
      cases waiting with
      | nil =>
          have inOrder := (List.nil_append _).trans names
          cases (eq_nil_of_names_eq notItself (Nat.le_refl _) inOrder).1
      | cons first waiting =>
          rw [List.map_cons, List.cons_append, List.flatMap_cons, fresh_append,
            ← List.append_assoc] at names
          obtain ⟨rfl, namesLater⟩ := List.cons.inj names
          obtain ⟨isDrawn, areDrawnLater⟩ := List.forall_mem_cons.1 areDrawn
          refine .next isDrawn ?_
          rw [Frontier.foldl_enqueue]
          exact inductionHypothesis areDrawnLater (List.forall_mem_cons.1 notItself).2 _ _
            namesLater

end Expansion

/-- A name that leads to a word has a derivation tree behind the root, if no rule mentions that. -/
theorem Grammar.hasTree_of_completes
    {grammar : Grammar}
    {start rootName name : String}
    (notRoot : ∀ rule ∈ grammar.rules, rootName ∉ rule.nonterminals)
    (behind : ∀ rule ∈ grammar.rules, rule.lhs ≠ rootName → rule ∈ grammar.rules.drop 1)
    (completes : (grammar.rewriting start).Completes [.nonterminal name])
    (different : name ≠ rootName) :
    Productivity.HasTree (grammar.rules.drop 1) name := by
  refine completes.induction
    (fun other : String => other ≠ rootName → Productivity.HasTree (grammar.rules.drop 1) other)
    ?_ name (List.mem_singleton_self _) different
  intro production isProduction each isOther
  obtain ⟨rule, isRule, isOneOfRule⟩ := List.mem_flatMap.1 (List.mem_toFinset.1 isProduction)
  obtain ⟨alternative, member, rfl⟩ := List.mem_map.1 isOneOfRule
  have isBehind := behind rule isRule isOther
  refine Productivity.passes_hasTree _ rule isBehind alternative member ?_
  intro mentioned mentions
  have isSymbol := Alternative.mem_nonterminals.1 mentions
  refine each mentioned (List.mem_map.2 ⟨_, isSymbol, rfl⟩) ?_
  rintro rfl
  exact notRoot rule isRule (Rule.mem_nonterminals.2 ⟨alternative, member, isSymbol⟩)

/-- A rule of the demanded shape fits if what it mentions has been selected. -/
theorem Rule.HasShape.ruleFits
    {generator : Generator}
    {isRoot : Bool}
    {rule : Rule}
    (shape : rule.HasShape generator.config isRoot)
    (selected : ∀ alternative ∈ rule.alternatives, ∀ symbol ∈ alternative.symbols,
      symbol ∈ generator.pool) :
    generator.RuleFits rule.lhs isRoot rule where
  lhs_eq := rfl
  least := shape.alternatives_least
  greatest := shape.alternatives_greatest
  alternativesFit := by
    refine ⟨fun alternative member => ?_, shape.distinct, fun isSole alternative member => ?_⟩
    · refine ⟨fun symbol isSymbol => ?_, shape.symbols_least alternative member,
        shape.symbols_greatest alternative member,
        fun root => shape.expands root alternative member⟩
      refine Generator.mem_candidates.2 ⟨selected alternative member symbol isSymbol, ?_⟩
      rintro rfl
      exact shape.notItself (Rule.mem_nonterminals.2 ⟨alternative, member, isSymbol⟩)
    · obtain ⟨only, isOnly⟩ := List.length_eq_one_iff.1 (of_decide_eq_true isSole)
      rw [isOnly, List.mem_singleton] at member
      exact shape.soleNotEmpty alternative (member ▸ isOnly)

namespace Generator.Yields

variable {generator : Generator} {root : Rule} {others : List Rule} {size : Int}

/-- What a generator yields is admitted. -/
theorem isAdmitted
    (yields : generator.Yields root others)
    (selected : generator.Selected size)
    (outside : generator.config.rootName ∉ generator.nonterminals)
    (distinct : generator.config.nonterminalAlphabet.Nodup) :
    Grammar.IsAdmitted generator.config size { rules := root :: others } where
  hasShape := yields.hasShape selected outside distinct
  inOrder := by
    rw [← yields.rootFits.lhs_eq]
    refine yields.expanded.names_behind fun rule member name mentions _ => ?_
    obtain ⟨_, fits⟩ := yields.fits member
    exact (fits.mentions mentions).1
  completes rule isBehind := by
    have hasTree := Grammar.isProductive_iff_rules.1 yields.isProductive rule isBehind
    exact Grammar.completes_of_productive _ (Grammar.mem_productive_iff.2 hasTree)

end Generator.Yields

namespace Grammar.IsAdmitted

variable {config : Config} {size : Int} {root : Rule} {others : List Rule}

/-- No rule of an admitted grammar mentions the root. -/
theorem notRoot
    (admitted : Grammar.IsAdmitted config size { rules := root :: others })
    {rule : Rule}
    (member : rule ∈ root :: others) :
    config.rootName ∉ rule.nonterminals := by
  obtain ⟨_, shape⟩ := admitted.hasShape.ruleHasShape member
  exact shape.notRoot

/-- The names behind the root of an admitted grammar are those that its rules mention. -/
theorem mem_names_iff
    (admitted : Grammar.IsAdmitted config size { rules := root :: others })
    {name : String} :
    name ∈ others.map Rule.lhs ↔ ∃ rule ∈ root :: others, name ∈ rule.nonterminals := by
  rw [(List.cons.inj admitted.inOrder).2, List.mem_eraseDups, List.mem_filter, List.mem_flatMap,
    and_iff_left_of_imp]
  rintro ⟨rule, member, mentions⟩
  refine decide_eq_true ?_
  rintro rfl
  exact admitted.notRoot member mentions

/-- The rules of an admitted grammar are yielded once its names and terminals are selected. -/
theorem yields
    (admitted : Grammar.IsAdmitted config size { rules := root :: others })
    {terminals : List String}
    (occurring : Grammar.terminals { rules := root :: others } ⊆ terminals) :
    Generator.Yields ⟨config, others.map Rule.lhs, terminals⟩ root others := by
  obtain ⟨_, _, same, isRoot, rootShape, othersShape⟩ := admitted.hasShape.root
  cases same
  have distinct : (root.lhs :: others.map Rule.lhs).Nodup := admitted.hasShape.names_nodup
  have selected : ∀ rule ∈ root :: others, ∀ alternative ∈ rule.alternatives,
      ∀ symbol ∈ alternative.symbols,
        symbol ∈ Generator.pool ⟨config, others.map Rule.lhs, terminals⟩ := by
    intro rule member alternative isAlternative symbol isSymbol
    cases symbol with
    | terminal name =>
        refine Generator.terminal_mem_pool.2 (occurring ?_)
        exact Grammar.mem_terminals.2 ⟨rule, member, alternative, isAlternative, isSymbol⟩
    | nonterminal name =>
        refine Generator.nonterminal_mem_pool.2 (admitted.mem_names_iff.2 ⟨rule, member, ?_⟩)
        exact Rule.mem_nonterminals.2 ⟨alternative, isAlternative, isSymbol⟩
  refine ⟨?_, ?_, ?_, fun name => admitted.mem_names_iff.1⟩
  · exact isRoot ▸ rootShape.ruleFits (selected root List.mem_cons_self)
  · have given : ∀ rule ∈ root :: others, ∀ name ∈ rule.nonterminals,
        name ≠ root.lhs → name ∈ others.map Rule.lhs :=
      fun rule member name mentions _ => admitted.mem_names_iff.2 ⟨rule, member, mentions⟩
    refine Expansion.Expanded.of_names_eq ?_ ?_ ?_
    · intro rule isOther
      exact (othersShape rule isOther).2.ruleFits (selected rule (List.mem_cons_of_mem _ isOther))
    · intro rule isOther
      exact (othersShape rule isOther).2.notItself
    · rw [Expansion.waiting_behind_append given, isRoot]
      exact (List.cons.inj admitted.inOrder).2
  · refine Grammar.isProductive_iff_rules.2 fun rule isOther => ?_
    refine Grammar.hasTree_of_completes (fun _ => admitted.notRoot) ?_
      (admitted.completes rule isOther) ?_
    · intro other member different
      rcases List.mem_cons.1 member with rfl | isBehind
      · exact absurd isRoot different
      · exact isBehind
    · intro same
      exact (List.nodup_cons.1 distinct).1 (isRoot.trans same.symm ▸ List.mem_map_of_mem isOther)

end Grammar.IsAdmitted

namespace Config

variable {config : Config} {size : Int} {grammar : Grammar}

/-- An admitted grammar can be generated. -/
theorem generate_canEnd
    (draws : 1 ≤ config.maxRetries)
    (least : 2 ≤ size)
    (greatest : size ≤ config.maxSize)
    (admitted : grammar.IsAdmitted config size) :
    (config.generate size : Draw Tape (Option Grammar)).CanEnd (.ok (some grammar)) := by
  obtain ⟨rules⟩ := grammar
  obtain ⟨root, others, isRules, -, -, othersShape⟩ := admitted.hasShape.root
  obtain rfl : rules = root :: others := isRules
  have namesLength : (others.map Rule.lhs).length + 1 = size := by
    rw [← admitted.hasShape.rules_length]
    simp
  have areNames : (others.map Rule.lhs).Subperm (letters config.nonterminalAlphabet) := by
    refine List.subperm_of_subset (List.nodup_cons.1 admitted.hasShape.names_nodup).2 ?_
    intro name isName
    obtain ⟨rule, isOther, rfl⟩ := List.mem_map.1 isName
    exact (othersShape rule isOther).1
  -- The terminals that occur are made up to as many as the size demands.
  have few := admitted.hasShape.terminals_length
  obtain ⟨more, terminalsLength, areTerminals⟩ :=
    Draw.exists_subperm_of_length
      (List.subperm_of_subset (Grammar.nodup_terminals _) admitted.hasShape.terminals_subset)
      (by omega) (enough_letters greatest).2
  have selects := selectAlphabet_canEnd greatest least namesLength areNames
    (by rw [terminalsLength]; omega) areTerminals
  have yields := admitted.yields (List.subset_append_left _ more)
  exact selects.bind (yields.canEnd draws).tryCatch

/--
The grammars that can be generated are exactly those that the configuration admits: whatever is
admitted comes about on some prepared answers, if the generator may draw an alternative at all.
-/
theorem isAdmitted_iff_exists_generated
    (config : Config)
    (size : Int)
    (grammar : Grammar)
    (draws : 1 ≤ config.maxRetries)
    (distinct : config.nonterminalAlphabet.Nodup)
    (outside : config.rootName ∉ letters config.nonterminalAlphabet)
    (least : 2 ≤ size)
    (greatest : size ≤ config.maxSize) :
    grammar.IsAdmitted config size ↔
      ∃ tape : Tape, ((config.generate size).run.run tape).1 = .ok (some grammar) := by
  constructor
  · exact fun admitted => (generate_canEnd draws least greatest admitted).exists_tape
  · rintro ⟨tape, generated⟩
    obtain ⟨generator, root, others, rfl, selected, rfl, yields⟩ :=
      config.generate_gives size tape _ generated grammar rfl
    refine yields.isAdmitted selected ?_ distinct
    exact fun isSelected => outside (selected.nonterminals_subset isSelected)

/-- Two names that lead to each other and to the empty word, behind a root with two ways out. -/
theorem isAdmitted_iff_exists_generated_of_cycle :
    let root : Rule := ⟨"root", [⟨[.nonterminal "B", .terminal "c"]⟩, ⟨[.nonterminal "A"]⟩]⟩
    let first : Rule := ⟨"B", [⟨[.nonterminal "A", .nonterminal "A"]⟩, ⟨[]⟩]⟩
    let second : Rule := ⟨"A", [⟨[.nonterminal "B"]⟩]⟩
    let grammar : Grammar := ⟨[root, first, second]⟩
    1 ≤ standard.maxRetries ∧
      standard.nonterminalAlphabet.Nodup ∧
      standard.rootName ∉ letters standard.nonterminalAlphabet ∧
      3 ≤ standard.maxSize ∧
      grammar.IsAdmitted standard 3 ∧
      ∃ tape : Tape, ((standard.generate 3).run.run tape).1 = .ok (some grammar) := by
  intro root first second grammar
  have distinct : standard.nonterminalAlphabet.Nodup := by decide +kernel
  have outside : standard.rootName ∉ letters standard.nonterminalAlphabet := by decide +kernel
  have enough : 3 ≤ standard.maxSize := by decide +kernel
  have rootShape : root.HasShape standard true := by
    refine ⟨by decide, by decide, by decide, by decide, by decide, by decide, by decide,
      nofun, fun _ => ?_⟩
    rw [List.forall_mem_cons, List.forall_mem_singleton]
    exact ⟨nofun, fun _ => ⟨"A", rfl⟩⟩
  have firstShape : first.HasShape standard false := by
    refine ⟨by decide, by decide, by decide, by decide, by decide, by decide, by decide,
      nofun, nofun⟩
  have secondShape : second.HasShape standard false := by
    refine ⟨by decide, by decide, by decide, by decide, by decide, by decide, by decide,
      ?_, nofun⟩
    rintro _ ⟨⟩
    exact nofun
  have shape : grammar.HasShape standard 3 := by
    refine ⟨rfl, by decide, ⟨root, _, rfl, rfl, rootShape, ?_⟩, by decide +kernel,
      by decide +kernel⟩
    rw [List.forall_mem_cons, List.forall_mem_singleton]
    exact ⟨⟨by decide +kernel, firstShape⟩, by decide +kernel, secondShape⟩
  have admitted : grammar.IsAdmitted standard 3 := by
    refine ⟨shape, by decide +kernel, fun rule isBehind => ?_⟩
    refine Grammar.completes_of_productive _ (?_ : rule.lhs ∈ grammar.productive)
    revert rule
    decide +kernel
  exact ⟨by decide, distinct, outside, enough, admitted,
    (isAdmitted_iff_exists_generated standard 3 grammar (by decide) distinct outside (by decide)
      (Int.ofNat_le.2 enough)).1 admitted⟩

end Config

end GrammarCorpus
