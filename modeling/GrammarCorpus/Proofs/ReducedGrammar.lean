import GrammarCorpus.Proofs.Derivation
import GrammarCorpus.Proofs.Generation
import GrammarCorpus.Proofs.Work

namespace GrammarCorpus

/-!
# Generated grammars are reduced

The generator looks at names alone: it expands what has been mentioned, gives up when a
selected name is left out, and asks for productive rules behind the root. Derivations
follow. Every mentioned name has a productive rule behind the root, since the root itself
is never mentioned; so everything that stands in an alternative can be completed, the
alternatives of the root included, and the root is the start of a complete derivation
through any alternative that is reached from it.
-/

namespace Generator.Yields

variable {generator : Generator} {root : Rule} {others : List Rule}

/-- The rules that a generator yields form a reduced grammar. -/
theorem isReduced
    (yields : generator.Yields root others)
    (outside : generator.config.rootName ∉ generator.nonterminals) :
    Grammar.IsReduced { rules := root :: others } generator.config.rootName := by
  rw [← yields.rootFits.lhs_eq]
  refine Grammar.isReduced_of_productive yields.isProductive ?_ rfl ?_ ?_
  · intro rule member name mentions
    exact yields.defined outside member mentions
  · intro none
    have atLeast := yields.rootFits.least
    have oneAlternative := generator.config.oneAlternative
    rw [none] at atLeast
    simp only [List.length_nil] at atLeast
    omega
  · intro property start passes
    exact yields.expanded.induction_from_root property start passes

end Generator.Yields

namespace Config

/--
Every generated grammar is reduced, whatever a lawful source draws, if the name of the
root is not in the alphabet of nonterminals.
-/
theorem generated_isReduced
    {σ : Type}
    [RandomSource σ]
    [LawfulRandomSource σ]
    (config : Config)
    (size : Int)
    (state : σ)
    {grammar : Grammar}
    (outside : config.rootName ∉ letters config.nonterminalAlphabet)
    (generated : ((config.generate size).run.run state).1 = .ok (some grammar)) :
    (∃ root, grammar.root? = some root ∧ root.lhs = config.rootName) ∧
      grammar.IsReduced config.rootName := by
  obtain ⟨generator, root, others, rfl, selected, rfl, yields⟩ :=
    config.generate_gives size state _ generated grammar rfl
  refine ⟨⟨root, rfl, yields.rootFits.lhs_eq⟩, yields.isReduced ?_⟩
  intro isSelected
  exact outside (selected.nonterminals_subset isSelected)

/-- Some answers in turn lead to a grammar whose last rule is left by its empty alternative. -/
theorem generated_isReduced_in_turn :
    let config : Config := { maxSymbols := 2, maxAlternatives := 2 }
    let grammar : Grammar :=
      { rules := [
          ⟨"root", [⟨[.nonterminal "A", .nonterminal "B"]⟩]⟩,
          ⟨"A", [⟨[.terminal "a"]⟩]⟩,
          ⟨"B", [⟨[.nonterminal "A"]⟩, ⟨[]⟩]⟩] }
    config.rootName ∉ letters config.nonterminalAlphabet ∧
      ((config.generate 3).run.run (InTurn.mk 24)).1 = .ok (some grammar) ∧
      (∃ root, grammar.root? = some root ∧ root.lhs = config.rootName) ∧
      grammar.IsReduced config.rootName := by
  intro config grammar
  have outside : config.rootName ∉ letters config.nonterminalAlphabet := by decide +kernel
  have generated :
      ((config.generate 3).run.run (InTurn.mk 24)).1 = .ok (some grammar) :=
    eq_ok_of_toOption (by decide +kernel)
  exact ⟨outside, generated, config.generated_isReduced 3 (InTurn.mk 24) outside generated⟩

end Config

end GrammarCorpus
