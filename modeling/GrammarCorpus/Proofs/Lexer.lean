import GrammarCorpus.Proofs.GrammarShape
import GrammarCorpus.Proofs.Text.Lines
import GrammarCorpus.Proofs.Text.Quotation
import GrammarCorpus.Proofs.Unambiguity
import Mathlib.Data.List.Sort
import Mathlib.Data.String.Basic

namespace GrammarCorpus

/-!
# A lexer for the tokens of a grammar

In the dialect with actions all that stands between apostrophes are the terminals of the
grammar, each as often as it occurs. The lexer description beside it has one line for each of
them, in the order of their names, with the name between double quotes. Both texts are read by
`Text.quotedBy`, so the two renderings are compared by what is found in them.
-/

/-- A symbol that shows where it ends, and that fits into a line of a lexer description. -/
def Symbol.IsLexable : Symbol → Prop
  | .terminal name => '\'' ∉ name.toList ∧ '"' ∉ name.toList ∧ '\n' ∉ name.toList
  | .nonterminal name => Recount.IsName name

/-- A grammar with a root, of names and of symbols that fit into a lexer description. -/
structure Grammar.IsLexable (grammar : Grammar) : Prop where
  nonempty : grammar.rules ≠ []
  names : ∀ rule ∈ grammar.rules, Recount.IsName rule.lhs
  symbols : ∀ rule ∈ grammar.rules, ∀ alternative ∈ rule.alternatives,
    ∀ symbol ∈ alternative.symbols, symbol.IsLexable

instance : (symbol : Symbol) → Decidable symbol.IsLexable
  | .terminal _ => inferInstanceAs (Decidable (_ ∧ _))
  | .nonterminal name => inferInstanceAs (Decidable (Recount.IsName name))

instance (grammar : Grammar) : Decidable grammar.IsLexable :=
  decidable_of_iff
    (grammar.rules ≠ [] ∧ (∀ rule ∈ grammar.rules, Recount.IsName rule.lhs) ∧
      ∀ rule ∈ grammar.rules, ∀ alternative ∈ rule.alternatives,
        ∀ symbol ∈ alternative.symbols, symbol.IsLexable)
    ⟨fun holds => ⟨holds.1, holds.2.1, holds.2.2⟩,
      fun lexable => ⟨lexable.nonempty, lexable.names, lexable.symbols⟩⟩

/-- What is lexable shows where it ends. -/
theorem Symbol.IsLexable.isSeparable
    {symbol : Symbol}
    (lexable : symbol.IsLexable) :
    Recount.IsSeparable symbol := by
  cases symbol with
  | terminal name => exact And.left lexable
  | nonterminal name => exact lexable

section Quoted

variable {alternative : Alternative}

/-- A terminal is quoted, and a name quotes nothing. -/
theorem Symbol.encloses
    {symbol : Symbol}
    (separable : Recount.IsSeparable symbol) :
    Text.Encloses '\'' symbol.text.toList (symbol.terminal?.toList.map String.toList) := by
  cases symbol with
  | terminal name =>
      have quoted := Text.Encloses.of_quotation separable
      simpa [Symbol.text, Symbol.terminal?] using quoted
  | nonterminal name =>
      exact .of_notMem (Recount.apostrophe_not_mem_name separable)

/-- An alternative quotes its terminals. -/
theorem Alternative.IsSeparable.encloses (separable : alternative.IsSeparable) :
    Text.Encloses '\'' alternative.text.toList (alternative.terminals.map String.toList) := by
  have symbols := Text.Encloses.intercalate [' '] (by decide)
    fun symbol member => Symbol.encloses (separable symbol member)
  have inOrder : alternative.symbols.flatMap
      (fun symbol => symbol.terminal?.toList.map String.toList) =
        alternative.terminals.map String.toList := by
    rw [Alternative.terminals, List.filterMap_eq_flatMap_toList, List.map_flatMap]
  rw [inOrder] at symbols
  simpa [Alternative.text, Function.comp_def] using symbols

/-- So does an alternative with an action behind it. -/
theorem Alternative.IsSeparable.encloses_withAction (separable : alternative.IsSeparable) :
    Text.Encloses '\'' (Grammar.withAction alternative).toList
      (alternative.terminals.map String.toList) := by
  rw [Recount.Dialect.toList_withAction separable]
  split
  · rename_i empty
    rw [Alternative.terminals, empty]
    exact .of_notMem (by decide)
  · have behind : Text.Encloses '\'' (' ' :: Recount.actionBlock) [] := .of_notMem (by decide)
    simpa using separable.encloses.append behind

end Quoted

namespace Grammar

/-- A rule with actions quotes the terminals of its alternatives. -/
theorem encloses_ruleWithActions
    {rule : Rule}
    (isName : Recount.IsName rule.lhs)
    (separable : ∀ alternative ∈ rule.alternatives, alternative.IsSeparable) :
    Text.Encloses '\'' (ruleWithActions rule).toList
      ((rule.alternatives.flatMap Alternative.terminals).map String.toList) := by
  have opening : Text.Encloses '\'' (rule.lhs.toList ++ " -> (): ".toList) [] := by
    apply Text.Encloses.of_notMem
    rw [List.mem_append, not_or]
    exact ⟨Recount.apostrophe_not_mem_name isName, by decide⟩
  have alternatives := Text.Encloses.intercalate (" | ".toList) (by decide)
    fun alternative member => (separable alternative member).encloses_withAction
  have closing : Text.Encloses '\'' "\n;".toList [] := .of_notMem (by decide)
  have whole := (opening.append alternatives).append closing
  simpa [ruleWithActions, Function.comp_def, List.map_flatMap] using whole

/-- Between the apostrophes of the dialect with actions stand the terminals, as they occur. -/
theorem quotedBy_grmtools
    {grammar : Grammar}
    (lexable : grammar.IsLexable) :
    ∃ text, grammar.grmtools? = some text ∧
      Text.quotedBy '\'' text.toList =
        (grammar.alternatives.flatMap Alternative.terminals).map String.toList := by
  obtain ⟨rules⟩ := grammar
  obtain ⟨root, others, rfl⟩ := List.exists_cons_of_ne_nil lexable.nonempty
  refine ⟨_, rfl, ?_⟩
  have separable : ∀ rule ∈ root :: others, ∀ alternative ∈ rule.alternatives,
      alternative.IsSeparable :=
    fun rule isRule alternative member symbol isSymbol =>
      (lexable.symbols rule isRule alternative member symbol isSymbol).isSeparable
  have opening : Text.Encloses '\'' ("%start ".toList ++ root.lhs.toList ++ "\n\n%%\n\n".toList)
      [] := by
    apply Text.Encloses.of_notMem
    rw [List.mem_append, List.mem_append, not_or, not_or]
    have isName := lexable.names root List.mem_cons_self
    exact ⟨⟨by decide, Recount.apostrophe_not_mem_name isName⟩, by decide⟩
  have body := Text.Encloses.intercalate ['\n'] (by decide)
    fun rule isRule => encloses_ruleWithActions (lexable.names rule isRule) (separable rule isRule)
  have closing : Text.Encloses '\'' "\n\n%%\n".toList [] := .of_notMem (by decide)
  have whole := ((opening.append body).append closing).quotedBy_eq
  simpa [framed, alternatives, Function.comp_def, List.map_flatMap, List.flatMap_assoc] using whole

/-- The terminals of a grammar stand in the order of their names, and none of them twice. -/
theorem terminals_increasing (grammar : Grammar) : grammar.terminals.Pairwise (· < ·) := by
  have sorted : grammar.terminals.Pairwise (· ≤ ·) := List.pairwise_mergeSort' (· ≤ ·) _
  exact (sorted.and grammar.nodup_terminals).imp fun both => lt_of_le_of_ne both.1 both.2

/-- A line of the lexer description quotes the terminal that it is for. -/
theorem encloses_lexerLine
    {name : String}
    (absent : '"' ∉ name.toList) :
    Text.Encloses '"' (lexerLine name).toList [name.toList] := by
  have lexeme : Text.Encloses '"' (name.toList ++ [' ']) [] := by
    apply Text.Encloses.of_notMem
    rw [List.mem_append, not_or]
    exact ⟨absent, by decide⟩
  have whole := lexeme.append (Text.Encloses.of_quotation absent)
  simpa [lexerLine] using whole

variable {grammar : Grammar} (lexable : grammar.IsLexable)

include lexable

/-- A terminal of a lexable grammar fits into a line between double quotes. -/
theorem IsLexable.fits {name : String} (isTerminal : name ∈ grammar.terminals) :
    '"' ∉ name.toList ∧ '\n' ∉ name.toList := by
  obtain ⟨rule, isRule, alternative, member, isSymbol⟩ := mem_terminals.1 isTerminal
  exact And.right (lexable.symbols rule isRule alternative member _ isSymbol)

/-- The lines of the lexer description: one for each terminal between two that are fixed. -/
theorem IsLexable.lines_lexer :
    Text.lines grammar.lexer.toList =
      "%%".toList :: grammar.terminals.map (fun name => (lexerLine name).toList) ++
        [skipLine.toList, []] := by
  have body : Text.lines (['\n'].intercalate
      (grammar.terminals.map (fun name => (lexerLine name).toList) ++ [skipLine.toList])) =
        grammar.terminals.map (fun name => (lexerLine name).toList) ++ [skipLine.toList] := by
    refine Text.lines_intercalate (fun line member => ?_) (by simp)
    rcases List.mem_append.1 member with isLine | isLast
    · obtain ⟨name, isTerminal, rfl⟩ := List.mem_map.1 isLine
      simp [lexerLine, (lexable.fits isTerminal).2]
    · obtain rfl := List.mem_singleton.1 isLast
      decide
  have whole : grammar.lexer.toList = "%%".toList ++ '\n' :: (['\n'].intercalate
      (grammar.terminals.map (fun name => (lexerLine name).toList) ++ [skipLine.toList]) ++
        '\n' :: []) := by
    simp [lexer, Function.comp_def]
  rw [whole, Text.lines_append_cons, Text.lines_append_cons, body,
    Text.lines_of_notMem (by decide), List.append_assoc]
  rfl

/-- Between the double quotes of the lexer description stand the terminals, each once. -/
theorem IsLexable.quotedBy_lexer :
    Text.quotedBy '"' grammar.lexer.toList = grammar.terminals.map String.toList := by
  have lines : Text.Encloses '"'
      (['\n'].intercalate ((grammar.terminals.map lexerLine ++ [skipLine]).map String.toList))
      ((grammar.terminals.map lexerLine ++ [skipLine]).flatMap fun line =>
        Text.quotedBy '"' line.toList) := by
    refine .intercalate ['\n'] (by decide) fun line member => ?_
    rcases List.mem_append.1 member with isLine | isLast
    · obtain ⟨name, isTerminal, rfl⟩ := List.mem_map.1 isLine
      have encloses := encloses_lexerLine (lexable.fits isTerminal).1
      rwa [encloses.quotedBy_eq]
    · obtain rfl := List.mem_singleton.1 isLast
      exact .of_notMem (by decide)
  have quotes : (grammar.terminals.map lexerLine ++ [skipLine]).flatMap
      (fun line => Text.quotedBy '"' line.toList) = grammar.terminals.map String.toList := by
    have skips : Text.quotedBy '"' skipLine.toList = [] := by decide
    rw [List.flatMap_append, List.flatMap_singleton, skips, List.append_nil, List.flatMap_map,
      List.map_eq_flatMap]
    apply List.flatMap_congr
    intro name isTerminal
    exact (encloses_lexerLine (lexable.fits isTerminal).1).quotedBy_eq
  have opening : Text.Encloses '"' "%%\n".toList [] := .of_notMem (by decide)
  have closing : Text.Encloses '"' ['\n'] [] := .of_notMem (by decide)
  have whole := ((opening.append lines).append closing).quotedBy_eq
  rw [quotes] at whole
  simpa [lexer] using whole

/--
Between its first line and its last one the lexer description has a line for each of some
names, which increase strictly, and nothing else is between double quotes in it. These names
are the texts that stand between apostrophes in the dialect with actions: no token is without
a line, none has two, and no line is for a token that does not occur.
-/
theorem lexer_lists_tokens :
    ∃ (text : String) (names : List String),
      grammar.grmtools? = some text ∧
        Text.lines grammar.lexer.toList =
          "%%".toList :: names.map (fun name => (name ++ " \"" ++ name ++ "\"").toList) ++
            [skipLine.toList, []] ∧
        names.Pairwise (· < ·) ∧
        Text.quotedBy '"' grammar.lexer.toList = names.map String.toList ∧
        ∀ name : String, name ∈ names ↔ name.toList ∈ Text.quotedBy '\'' text.toList := by
  obtain ⟨text, rendered, quotes⟩ := quotedBy_grmtools lexable
  refine ⟨text, grammar.terminals, rendered, lexable.lines_lexer, grammar.terminals_increasing,
    lexable.quotedBy_lexer, fun name => ?_⟩
  have sameTexts : Function.Injective String.toList := fun _ _ => String.toList_injective
  rw [quotes, List.mem_map_of_injective sameTexts, terminals, List.mem_mergeSort,
    List.mem_eraseDups]

omit lexable

/--
A grammar with a terminal that occurs twice, one that is written like a nonterminal, one
without a character, and an alternative without symbols.
-/
def likeNames : Grammar where
  rules := [
    { lhs := "S", alternatives := [
      { symbols := [.nonterminal "A", .terminal "A", .terminal ""] }, { symbols := [] }] },
    { lhs := "A", alternatives := [{ symbols := [.terminal "A", .terminal "+ | ;"] }] }]

/-- Its lexer description lists what stands between apostrophes. -/
theorem lexer_lists_tokens_of_likeNames :
    likeNames.IsLexable ∧
      ∃ (text : String) (names : List String),
        likeNames.grmtools? = some text ∧
          Text.lines likeNames.lexer.toList =
            "%%".toList :: names.map (fun name => (name ++ " \"" ++ name ++ "\"").toList) ++
              [skipLine.toList, []] ∧
          names.Pairwise (· < ·) ∧
          Text.quotedBy '"' likeNames.lexer.toList = names.map String.toList ∧
          ∀ name : String, name ∈ names ↔ name.toList ∈ Text.quotedBy '\'' text.toList :=
  have lexable : likeNames.IsLexable := by decide
  ⟨lexable, lexer_lists_tokens lexable⟩

end Grammar

end GrammarCorpus
