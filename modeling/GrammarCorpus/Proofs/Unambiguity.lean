import GrammarCorpus.Proofs.Dialect
import GrammarCorpus.Proofs.Text.Determination
import Mathlib.Data.Option.Basic
import Mathlib.Tactic.TFAE

namespace GrammarCorpus

/-!
# Texts that identify grammars

A symbol shows where it ends: a quoted one at its second apostrophe, a name before the first
character that is none of a name. An alternative is therefore told from its text in front of
what may close it, a rule from its own text, and a grammar from each of its renderings, whatever
else stands between the apostrophes.
-/

/-- An alternative whose symbols show where they end. -/
def Alternative.IsSeparable (alternative : Alternative) : Prop :=
  ∀ symbol ∈ alternative.symbols, Recount.IsSeparable symbol

/-- A rule that shows its parts: a name, and alternatives whose symbols show where they end. -/
structure Rule.IsSeparable (rule : Rule) : Prop where
  name : Recount.IsName rule.lhs
  alternatives : rule.alternatives ≠ []
  symbols : ∀ alternative ∈ rule.alternatives, alternative.IsSeparable

/-- A grammar with a root, of rules that show their parts. -/
structure Grammar.IsSeparable (grammar : Grammar) : Prop where
  nonempty : grammar.rules ≠ []
  rules : ∀ rule ∈ grammar.rules, rule.IsSeparable

instance (alternative : Alternative) : Decidable alternative.IsSeparable :=
  inferInstanceAs (Decidable (∀ symbol ∈ alternative.symbols, Recount.IsSeparable symbol))

instance (rule : Rule) : Decidable rule.IsSeparable :=
  decidable_of_iff
    (Recount.IsName rule.lhs ∧ rule.alternatives ≠ [] ∧
      ∀ alternative ∈ rule.alternatives, alternative.IsSeparable)
    ⟨fun holds => ⟨holds.1, holds.2.1, holds.2.2⟩,
      fun separable => ⟨separable.name, separable.alternatives, separable.symbols⟩⟩

instance (grammar : Grammar) : Decidable grammar.IsSeparable :=
  decidable_of_iff
    (grammar.rules ≠ [] ∧ ∀ rule ∈ grammar.rules, rule.IsSeparable)
    ⟨fun holds => ⟨holds.1, holds.2⟩,
      fun separable => ⟨separable.nonempty, separable.rules⟩⟩

namespace Recount

section Symbols

variable {symbol : Symbol} {rest : List Char}

/-- No further character of a name follows. -/
def EndsName (rest : List Char) : Prop :=
  ∀ character ∈ rest.head?, isNameRest character = false

/-- A symbol in front is matched as a whole. -/
theorem symbolLength?_symbol
    (separable : IsSeparable symbol)
    (ends : EndsName rest) :
    symbolLength? (symbol.text.toList ++ rest) = some symbol.text.toList.length := by
  cases symbol with
  | nonterminal name => exact symbolLength?_name separable ends
  | terminal name =>
      have matched : symbolLength? ('\'' :: (name.toList ++ '\'' :: rest)) =
          some (name.toList.length + 2) :=
        symbolLength?_quoted separable
      simpa [Symbol.text] using matched

/-- Only quoted symbols have apostrophes. -/
theorem apostrophe_not_mem_name
    {name : String}
    (isName : IsName name) :
    '\'' ∉ name.toList :=
  isName.not_mem (by decide)

/-- A quoted symbol is not written like a name. -/
theorem terminal_text_ne_name
    {quoted name : String}
    (isName : IsName name) :
    (Symbol.terminal quoted).text ≠ name := by
  rintro rfl
  refine apostrophe_not_mem_name isName ?_
  simp [Symbol.text]

/-- Symbols that show where they end are the same if they are written the same. -/
theorem symbol_eq_of_text_eq
    {first second : Symbol}
    (isFirst : IsSeparable first)
    (isSecond : IsSeparable second)
    (same : first.text = second.text) :
    first = second := by
  cases first with
  | terminal firstName =>
      cases second with
      | terminal secondName =>
          have sameInside : firstName.toList = secondName.toList := by
            have sameList := congrArg String.toList same
            simpa [Symbol.text] using sameList
          exact congrArg _ (String.toList_inj.1 sameInside)
      | nonterminal secondName =>
          exact absurd same (terminal_text_ne_name isSecond)
  | nonterminal firstName =>
      cases second with
      | terminal secondName =>
          exact absurd same.symm (terminal_text_ne_name isFirst)
      | nonterminal secondName =>
          exact congrArg _ same

/-- A symbol is told from its text where no name goes on behind it. -/
theorem determines_symbol :
    Text.Determines (fun symbol : Symbol => symbol.text.toList) IsSeparable EndsName := by
  intro first isFirst second isSecond rest ends other endsOther same
  have matched := symbolLength?_symbol isFirst ends
  rw [same, symbolLength?_symbol isSecond endsOther] at matched
  obtain ⟨sameText, sameRest⟩ := List.append_inj same (Option.some.inj matched).symm
  exact ⟨symbol_eq_of_text_eq isFirst isSecond (String.toList_inj.1 sameText), sameRest⟩

end Symbols

section Alternatives

variable {rest : List Char} {character : Char}

/-- A character that belongs to no symbol in front of it, and that starts none. -/
def IsApart (character : Char) : Prop :=
  isNameRest character = false ∧ character ≠ '\''

instance (character : Char) : Decidable (IsApart character) :=
  inferInstanceAs (Decidable (_ ∧ _))

/-- No symbol starts with such a character. -/
theorem IsStart.not_isApart (isStart : IsStart character) : ¬ IsApart character := by
  rintro ⟨noName, noApostrophe⟩
  rcases isStart with startsName | isApostrophe
  · rw [isNameRest_of_isNameStart startsName] at noName
    cases noName
  · exact noApostrophe isApostrophe

/-- What may stand behind an alternative: no symbol goes on, and none follows a blank. -/
structure Closes (rest : List Char) : Prop where
  here : ∀ character ∈ rest.head?, IsApart character
  behindBlank : ∀ others, rest = ' ' :: others → ∀ character ∈ others.head?, IsApart character

/-- What closes an alternative closes its last name. -/
theorem Closes.endsName (closes : Closes rest) : EndsName rest :=
  fun character isHead => (closes.here character isHead).1

/-- Nothing that starts like a symbol closes an alternative. -/
theorem Closes.ne_text
    (closes : Closes rest)
    {alternative : Alternative}
    (separable : alternative.IsSeparable)
    (nonempty : alternative.symbols ≠ [])
    (others : List Char) :
    rest ≠ alternative.text.toList ++ others := by
  rintro rfl
  obtain ⟨first, later, isText, isStart⟩ := alternative_starts separable nonempty
  refine isStart.not_isApart (closes.here first ?_)
  rw [isText]
  rfl

/-- Symbols with blanks between them are told from their text. -/
theorem determines_symbols :
    Text.Determines
      (fun symbols => [' '].intercalate (symbols.map fun symbol : Symbol => symbol.text.toList))
      (fun symbols => symbols ≠ [] ∧ ∀ symbol ∈ symbols, IsSeparable symbol)
      Closes := by
  refine determines_symbol.intercalate ?_ (fun rest closes => closes.endsName) ?_
  · rintro rest character ⟨⟩
    decide
  · intro rest closes symbol separable others same
    obtain ⟨first, later, isText, isStart⟩ := symbol_starts separable
    refine isStart.not_isApart (closes.behindBlank _ same first ?_)
    rw [isText]
    rfl

/-- An alternative is told from its text in front of what may close it. -/
theorem determines_alternative :
    Text.Determines (fun alternative : Alternative => alternative.text.toList)
      Alternative.IsSeparable Closes := by
  rintro ⟨first⟩ isFirst ⟨second⟩ isSecond rest closes other closesOther same
  by_cases empty : first = []
  · by_cases emptyToo : second = []
    · subst empty emptyToo
      exact ⟨rfl, same⟩
    · subst empty
      exact absurd same (closes.ne_text isSecond emptyToo other)
  · by_cases emptyToo : second = []
    · subst emptyToo
      exact absurd same.symm (closesOther.ne_text isFirst empty rest)
    · obtain ⟨sameSymbols, sameRest⟩ := determines_symbols first ⟨empty, isFirst⟩
        second ⟨emptyToo, isSecond⟩ rest closes other closesOther
        (by simpa [Alternative.text, Function.comp_def] using same)
      exact ⟨congrArg _ sameSymbols, sameRest⟩

/-- With an action block behind it, an alternative is told from its text whatever follows. -/
theorem determines_withAction :
    Text.Determines (fun alternative => (Grammar.withAction alternative).toList)
      Alternative.IsSeparable fun _ => True := by
  intro first isFirst second isSecond rest _ other _ same
  have blockCloses : ∀ rest, Closes (actionBlock ++ rest) := by
    intro rest
    constructor
    · rintro character ⟨⟩
      decide
    · intro others starts
      exact absurd (List.cons.inj starts).1 (by decide)
  have gapCloses : ∀ rest, Closes (' ' :: (actionBlock ++ rest)) := by
    intro rest
    constructor
    · rintro character ⟨⟩
      decide
    · rintro _ ⟨⟩
      exact (blockCloses rest).here
  simp only [Dialect.toList_withAction isFirst, Dialect.toList_withAction isSecond] at same
  by_cases empty : first.symbols = []
  · by_cases emptyToo : second.symbols = []
    · rw [if_pos empty, if_pos emptyToo] at same
      obtain ⟨firstSymbols⟩ := first
      obtain ⟨secondSymbols⟩ := second
      exact ⟨congrArg _ (empty.trans emptyToo.symm), List.append_cancel_left same⟩
    · rw [if_pos empty, if_neg emptyToo, List.append_assoc] at same
      exact absurd same ((blockCloses rest).ne_text isSecond emptyToo _)
  · by_cases emptyToo : second.symbols = []
    · rw [if_neg empty, if_pos emptyToo, List.append_assoc] at same
      exact absurd same.symm ((blockCloses other).ne_text isFirst empty _)
    · rw [if_neg empty, if_neg emptyToo, List.append_assoc, List.append_assoc] at same
      obtain ⟨sameAlternative, behind⟩ := determines_alternative first isFirst second isSecond
        _ (gapCloses rest) _ (gapCloses other) same
      exact ⟨sameAlternative, List.append_cancel_left (List.cons.inj behind).2⟩

end Alternatives

namespace Dialect

/-- A dialect that shows where the names of rules and their alternatives end. -/
structure IsUnambiguous (dialect : Dialect) : Prop where
  opens : ∀ rest, EndsName (dialect.opening.toList ++ ':' :: rest)
  writes : Text.Determines (fun alternative => (dialect.write alternative).toList)
    Alternative.IsSeparable Closes

/-- The rules of a grammar stand on lines below each other. -/
theorem toList_text (dialect : Dialect) (rules : List Rule) :
    (dialect.text { rules }).toList =
      ['\n'].intercalate (rules.map fun rule => (dialect.rule rule).toList ++ ['\n', ';']) := by
  simp [text, Function.comp_def]

variable {dialect : Dialect} (unambiguous : dialect.IsUnambiguous)

include unambiguous

/-- Alternatives with bars between them are told from their text up to the end of the line. -/
theorem IsUnambiguous.determines_alternatives :
    Text.Determines
      (fun alternatives => [' ', '|', ' '].intercalate
        (alternatives.map fun alternative => (dialect.write alternative).toList))
      (fun alternatives => alternatives ≠ [] ∧
        ∀ alternative ∈ alternatives, alternative.IsSeparable)
      fun rest => ∃ others, rest = '\n' :: others := by
  refine unambiguous.writes.intercalate ?_ ?_ ?_
  · intro rest
    constructor
    · rintro character ⟨⟩
      decide
    · rintro _ ⟨⟩ character ⟨⟩
      decide
  · rintro _ ⟨others, rfl⟩
    constructor
    · rintro character ⟨⟩
      decide
    · intro _ starts
      exact absurd (List.cons.inj starts).1 (by decide)
  · rintro _ ⟨others, rfl⟩ alternative - later same
    exact absurd (List.cons.inj same).1 (by decide)

/-- A rule with its closing semicolon is told from its text whatever follows. -/
theorem IsUnambiguous.determines_rule :
    Text.Determines (fun rule => (dialect.rule rule).toList ++ ['\n', ';'])
      Rule.IsSeparable fun _ => True := by
  rintro ⟨firstLhs, firstAlternatives⟩ isFirst ⟨secondLhs, secondAlternatives⟩ isSecond
    rest _ other _ same
  simp only [toList_rule, List.append_assoc, List.cons_append] at same
  obtain ⟨sameName, behind⟩ := determines_symbol (.nonterminal firstLhs) isFirst.name
    (.nonterminal secondLhs) isSecond.name _ (unambiguous.opens _) _ (unambiguous.opens _) same
  have inLine := (List.cons.inj (List.cons.inj (List.append_cancel_left behind)).2).2
  obtain ⟨sameAlternatives, ends⟩ := unambiguous.determines_alternatives
    firstAlternatives ⟨isFirst.alternatives, isFirst.symbols⟩
    secondAlternatives ⟨isSecond.alternatives, isSecond.symbols⟩
    _ ⟨_, rfl⟩ _ ⟨_, rfl⟩ inLine
  cases sameName
  cases sameAlternatives
  exact ⟨rfl, (List.cons.inj (List.cons.inj ends).2).2⟩

/-- Rules on lines below each other are told from their text as a whole. -/
theorem IsUnambiguous.determines_rules :
    Text.Determines
      (fun rules => ['\n'].intercalate
        (rules.map fun rule => (dialect.rule rule).toList ++ ['\n', ';']))
      (fun rules => rules ≠ [] ∧ ∀ rule ∈ rules, rule.IsSeparable)
      fun rest => rest = [] := by
  refine unambiguous.determines_rule.intercalate (fun _ => trivial) (fun _ _ => trivial) ?_
  rintro _ rfl rule - others same
  cases same

/-- Grammars with the same rules in a frame are the same. -/
theorem IsUnambiguous.eq_of_framed_eq
    {first second : Rule}
    {firstOthers secondOthers : List Rule}
    (isFirst : Grammar.IsSeparable { rules := first :: firstOthers })
    (isSecond : Grammar.IsSeparable { rules := second :: secondOthers })
    (same : Grammar.framed first (dialect.text { rules := first :: firstOthers }) =
      Grammar.framed second (dialect.text { rules := second :: secondOthers })) :
    first :: firstOthers = second :: secondOthers := by
  have sameList := congrArg String.toList same
  simp only [Grammar.framed, String.toList_append, List.append_assoc] at sameList
  have line : ∀ rest, EndsName ("\n\n%%\n\n".toList ++ rest) := by
    rintro rest character ⟨⟩
    decide
  obtain ⟨-, behind⟩ := determines_symbol
    (.nonterminal first.lhs) (isFirst.rules first List.mem_cons_self).name
    (.nonterminal second.lhs) (isSecond.rules second List.mem_cons_self).name
    _ (line _) _ (line _) (List.append_cancel_left sameList)
  have sameBody := List.append_cancel_right (List.append_cancel_left behind)
  rw [toList_text, toList_text] at sameBody
  exact (unambiguous.determines_rules _ ⟨List.cons_ne_nil _ _, isFirst.rules⟩
    _ ⟨List.cons_ne_nil _ _, isSecond.rules⟩ [] rfl [] rfl (congrArg (· ++ []) sameBody)).1

/-- Renderings in such a dialect are the same exactly if the grammars are. -/
theorem IsUnambiguous.rendering_eq_iff
    {render : Grammar → Option String}
    (renders : ∀ root others, render { rules := root :: others } =
      some (Grammar.framed root (dialect.text { rules := root :: others })))
    {first second : Grammar}
    (isFirst : first.IsSeparable)
    (isSecond : second.IsSeparable) :
    render first = render second ↔ first = second := by
  constructor
  · intro same
    obtain ⟨firstRules⟩ := first
    obtain ⟨secondRules⟩ := second
    obtain ⟨root, others, rfl⟩ := List.exists_cons_of_ne_nil isFirst.nonempty
    obtain ⟨otherRoot, more, rfl⟩ := List.exists_cons_of_ne_nil isSecond.nonempty
    rw [renders, renders] at same
    exact congrArg _ (unambiguous.eq_of_framed_eq isFirst isSecond (Option.some.inj same))
  · rintro rfl
    rfl

end Dialect

/-- The plain dialect shows where its parts end. -/
theorem Dialect.plain_isUnambiguous : plain.IsUnambiguous where
  opens := by
    rintro rest character ⟨⟩
    decide
  writes := determines_alternative

/-- The dialect with actions shows where its parts end. -/
theorem Dialect.withActions_isUnambiguous : withActions.IsUnambiguous where
  opens := by
    rintro rest character ⟨⟩
    decide
  writes := fun first isFirst second isSecond rest _ other _ same =>
    determines_withAction first isFirst second isSecond rest trivial other trivial same

end Recount

/-- Alternatives are the same if they are written the same. -/
theorem Alternative.text_eq_iff
    {first second : Alternative}
    (isFirst : first.IsSeparable)
    (isSecond : second.IsSeparable) :
    first.text = second.text ↔ first = second := by
  constructor
  · intro same
    have nothingCloses : Recount.Closes [] := ⟨nofun, nofun⟩
    exact (Recount.determines_alternative first isFirst second isSecond [] nothingCloses []
      nothingCloses (congrArg (fun text => text.toList ++ []) same)).1
  · rintro rfl
    rfl

namespace Grammar

/-- Grammars are the same if one of their renderings is. -/
theorem renderings_tfae
    {first second : Grammar}
    (isFirst : first.IsSeparable)
    (isSecond : second.IsSeparable) :
    [first = second,
      first.canonical? = second.canonical?,
      first.bison? = second.bison?,
      first.grmtools? = second.grmtools?].TFAE := by
  have canonical : first.canonical? = second.canonical? ↔ first = second :=
    Recount.Dialect.plain_isUnambiguous.rendering_eq_iff
      (fun root others => by rw [Recount.Dialect.text_plain]; rfl) isFirst isSecond
  have grmtools : first.grmtools? = second.grmtools? ↔ first = second :=
    Recount.Dialect.withActions_isUnambiguous.rendering_eq_iff
      (fun root others => by rw [Recount.Dialect.text_withActions]; rfl) isFirst isSecond
  -- The directive in front is the same for all grammars.
  have bison : first.bison? = second.bison? ↔ first.canonical? = second.canonical? := by
    refine (Option.map_injective fun text other same => ?_).eq_iff
    rw [← String.toList_inj, String.toList_append, String.toList_append] at same
    exact String.toList_inj.1 (List.append_cancel_left same)
  tfae_have 1 ↔ 2 := canonical.symm
  tfae_have 2 ↔ 3 := bison.symm
  tfae_have 1 ↔ 4 := grmtools.symm
  tfae_finish

end Grammar

end GrammarCorpus
