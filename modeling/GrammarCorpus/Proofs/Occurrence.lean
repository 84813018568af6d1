import GrammarCorpus.Grammar

namespace GrammarCorpus

/-!
# Occurrences of symbols

Names and terminals are mentioned by alternatives, and by rules and grammars through
their alternatives. A symbol occurs at each of these levels if it is one of the symbols of
some alternative.
-/

namespace Alternative

/-- The names that an alternative mentions are its nonterminals. -/
theorem mem_nonterminals {name : String} {alternative : Alternative} :
    name ∈ alternative.nonterminals ↔ .nonterminal name ∈ alternative.symbols := by
  constructor
  · intro member
    obtain ⟨symbol, isSymbol, named⟩ := List.mem_filterMap.1 member
    cases symbol with
    | terminal _ => cases named
    | nonterminal _ =>
        cases named
        exact isSymbol
  · intro member
    exact List.mem_filterMap.2 ⟨_, member, rfl⟩

/-- The tokens that an alternative mentions are its terminals. -/
theorem mem_terminals {name : String} {alternative : Alternative} :
    name ∈ alternative.terminals ↔ .terminal name ∈ alternative.symbols := by
  constructor
  · intro member
    obtain ⟨symbol, isSymbol, named⟩ := List.mem_filterMap.1 member
    cases symbol with
    | nonterminal _ => cases named
    | terminal _ =>
        cases named
        exact isSymbol
  · intro member
    exact List.mem_filterMap.2 ⟨_, member, rfl⟩

end Alternative

/-- A rule mentions a name if one of its alternatives does. -/
theorem Rule.mem_nonterminals {name : String} {rule : Rule} :
    name ∈ rule.nonterminals ↔
      ∃ alternative ∈ rule.alternatives, .nonterminal name ∈ alternative.symbols := by
  simp only [Rule.nonterminals, List.mem_flatMap, Alternative.mem_nonterminals]

namespace Grammar

/-- The alternatives of a grammar are those of its rules. -/
theorem mem_alternatives {alternative : Alternative} {grammar : Grammar} :
    alternative ∈ grammar.alternatives ↔
      ∃ rule ∈ grammar.rules, alternative ∈ rule.alternatives :=
  List.mem_flatMap

/-- A grammar mentions a name if one of its rules does. -/
theorem mem_mentioned {name : String} {grammar : Grammar} :
    name ∈ grammar.mentioned ↔ ∃ rule ∈ grammar.rules, name ∈ rule.nonterminals := by
  rw [mentioned, List.mem_eraseDups, alternatives, List.flatMap_assoc]
  exact List.mem_flatMap

/-- A terminal occurs in a grammar if it is a symbol of an alternative of some rule. -/
theorem mem_terminals {name : String} {grammar : Grammar} :
    name ∈ grammar.terminals ↔
      ∃ rule ∈ grammar.rules, ∃ alternative ∈ rule.alternatives,
        .terminal name ∈ alternative.symbols := by
  rw [terminals, List.mem_mergeSort, List.mem_eraseDups, alternatives, List.flatMap_assoc]
  simp only [List.mem_flatMap, Alternative.mem_terminals]

end Grammar

end GrammarCorpus
