import GrammarCorpus.Proofs.Recount

namespace GrammarCorpus

/-!
# Dialects of a grammar

The renderings differ in what stands between the name of a rule and its colon, and in how an
alternative is written. Whatever a dialect chooses there, the shape of a grammar is read back
from its text if its alternatives hold no mark and are counted right between blanks.
-/

/-- A rule that is written readably: a name, and alternatives of readable symbols. -/
structure Rule.IsReadable (rule : Rule) : Prop where
  name : Recount.IsName rule.lhs
  alternatives : rule.alternatives ≠ []
  symbols : ∀ alternative ∈ rule.alternatives,
    ∀ symbol ∈ alternative.symbols, Recount.IsReadable symbol

/-- A grammar of readable rules. -/
def Grammar.IsReadable (grammar : Grammar) : Prop :=
  ∀ rule ∈ grammar.rules, rule.IsReadable

instance (rule : Rule) : Decidable rule.IsReadable :=
  decidable_of_iff
    (Recount.IsName rule.lhs ∧ rule.alternatives ≠ [] ∧
      ∀ alternative ∈ rule.alternatives,
        ∀ symbol ∈ alternative.symbols, Recount.IsReadable symbol)
    ⟨fun holds => ⟨holds.1, holds.2.1, holds.2.2⟩,
      fun readable => ⟨readable.name, readable.alternatives, readable.symbols⟩⟩

instance (grammar : Grammar) : Decidable grammar.IsReadable :=
  inferInstanceAs (Decidable (∀ rule ∈ grammar.rules, rule.IsReadable))

namespace Recount

/-- The text of an alternative in some dialect, with so many symbols. -/
structure IsWritten (text : List Char) (count : Nat) : Prop where
  noBar : '|' ∉ text
  noSection : Text.Joinable '%' '%' text
  noClosing : Text.Joinable '\n' ';' text
  /-- Before an alternative stands a blank, and behind it a blank or nothing. -/
  counts : ∀ trail, trail = [] ∨ trail = [' '] → symbols (' ' :: (text ++ trail)) = count

/-- The ways to write what the renderings do not have in common. -/
structure Dialect where
  /-- What stands between the name of a rule and the colon. -/
  opening : String
  write : Alternative → String
  noMark : ∀ mark ∈ [':', '%', ';'], mark ∉ opening.toList
  isWritten : ∀ alternative, (∀ symbol ∈ alternative.symbols, IsReadable symbol) →
    IsWritten (write alternative).toList alternative.length

namespace Dialect

/-- A rule up to its last alternative. -/
def rule (dialect : Dialect) (rule : Rule) : String :=
  rule.lhs ++ dialect.opening ++ ": " ++
    " | ".intercalate (rule.alternatives.map dialect.write)

/-- The rules of a grammar, each closed by a semicolon on a line of its own. -/
def text (dialect : Dialect) (grammar : Grammar) : String :=
  "\n".intercalate (grammar.rules.map fun rule => dialect.rule rule ++ "\n;")

variable {dialect : Dialect}

/-- The characters of a rule: its name and opening, the colon, and its alternatives. -/
theorem toList_rule (dialect : Dialect) (rule : Rule) :
    (dialect.rule rule).toList =
      (rule.lhs.toList ++ dialect.opening.toList) ++ ':' :: (' ' ::
        [' ', '|', ' '].intercalate
          (rule.alternatives.map fun alternative => (dialect.write alternative).toList)) := by
  simp [Dialect.rule, Function.comp_def]

/-- Behind the first rule stands its semicolon, and line feeds before other rules. -/
theorem toList_text_cons (dialect : Dialect) (rule : Rule) (others : List Rule) :
    ∃ gap, (∀ character ∈ gap, character = '\n') ∧
      (dialect.text { rules := rule :: others }).toList =
        (dialect.rule rule).toList ++
          (['\n', ';'] ++ (gap ++ (dialect.text { rules := others }).toList)) := by
  cases others with
  | nil => exact ⟨[], nofun, by simp [text]⟩
  | cons other others =>
      exact ⟨['\n'], fun _ => List.mem_singleton.1, by simp [text]⟩

/-- Cut at the bars, every alternative is counted right. -/
theorem map_symbols_splitOn
    (dialect : Dialect)
    {alternatives : List Alternative}
    (nonempty : alternatives ≠ [])
    (readable : ∀ alternative ∈ alternatives,
      ∀ symbol ∈ alternative.symbols, IsReadable symbol) :
    (Text.splitOn ['|'] (' ' :: [' ', '|', ' '].intercalate
        (alternatives.map fun alternative => (dialect.write alternative).toList))).map symbols =
      alternatives.map Alternative.length := by
  induction alternatives with
  | nil => exact absurd rfl nonempty
  | cons alternative others inductionHypothesis =>
      have isWritten := dialect.isWritten alternative (readable alternative List.mem_cons_self)
      cases others with
      | nil =>
          have absent : ¬ ['|'] <:+: ' ' :: ((dialect.write alternative).toList ++ []) := by
            rw [List.append_nil]
            exact fun found => isWritten.noBar (by simpa using found.subset List.mem_cons_self)
          have counted := isWritten.counts [] (.inl rfl)
          rw [List.append_nil] at absent counted
          simp [Text.splitOn_of_absent absent, counted]
      | cons other others =>
          have later := inductionHypothesis (List.cons_ne_nil _ _) fun alternative member =>
            readable alternative (List.mem_cons_of_mem _ member)
          have absent : ¬ ['|'] <:+: (' ' :: ((dialect.write alternative).toList ++ [' '])) ++
              ['|'].dropLast := by
            intro found
            have := found.subset List.mem_cons_self
            simp [isWritten.noBar] at this
          have isText : ' ' :: [' ', '|', ' '].intercalate
              ((alternative :: other :: others).map
                fun alternative => (dialect.write alternative).toList) =
              (' ' :: ((dialect.write alternative).toList ++ [' '])) ++ (['|'] ++
                (' ' :: [' ', '|', ' '].intercalate
                  ((other :: others).map
                    fun alternative => (dialect.write alternative).toList))) := by
            simp [List.intercalate_cons_cons]
          rw [isText, Text.splitOn_append (List.cons_ne_nil _ _) absent, List.map_cons, later,
            isWritten.counts [' '] (.inr rfl)]
          rfl

/-- A readable rule has its own shape, also with line feeds in front. -/
theorem shape_rule
    {lead : List Char}
    (isLead : ∀ character ∈ lead, character = '\n')
    {rule : Rule}
    (readable : rule.IsReadable) :
    Recount.rule (lead ++ (dialect.rule rule).toList) =
      .ok (Grammar.shape { rules := [rule] }) := by
  have noColon : ':' ∉ lead ++ (rule.lhs.toList ++ dialect.opening.toList) := by
    simp only [List.mem_append, not_or]
    refine ⟨fun member => ?_, readable.name.not_mem (by decide), dialect.noMark ':' (by decide)⟩
    exact absurd (isLead ':' member) (by decide)
  rw [toList_rule, ← List.append_assoc, Recount.rule, Text.partition?_append noColon]
  have counted := dialect.map_symbols_splitOn readable.alternatives readable.symbols
  have same := congrArg List.length counted
  rw [List.length_map, List.length_map] at same
  simp only [counted, same]
  simp [Grammar.shape, Grammar.alternatives]

/-- The marks of the frame and of the end of a rule do not arise in a readable rule. -/
theorem joinable_rule
    {rule : Rule}
    (readable : rule.IsReadable)
    {left right : Char}
    (isMark : right = '%' ∨ right = ';')
    (joinable : ∀ text count, IsWritten text count → Text.Joinable left right text) :
    Text.Joinable left right (dialect.rule rule).toList := by
  have name : Text.Joinable left right rule.lhs.toList := by
    refine Text.joinable_of_not_mem (readable.name.not_mem ?_)
    rcases isMark with rfl | rfl <;> decide
  have opening : Text.Joinable left right dialect.opening.toList := by
    refine Text.joinable_of_not_mem (dialect.noMark right ?_)
    rcases isMark with rfl | rfl <;> decide
  have colon : Text.Joinable left right [':', ' '] := by
    refine Text.joinable_of_not_mem ?_
    rcases isMark with rfl | rfl <;> decide
  have bar : Text.Joinable left right [' ', '|', ' '] := by
    refine Text.joinable_of_not_mem ?_
    rcases isMark with rfl | rfl <;> decide
  have alternatives : ∀ text ∈ rule.alternatives.map fun alternative =>
      (dialect.write alternative).toList, Text.Joinable left right text := by
    intro text member
    obtain ⟨alternative, isListed, rfl⟩ := List.mem_map.1 member
    exact joinable _ _ (dialect.isWritten alternative (readable.symbols alternative isListed))
  rw [toList_rule]
  exact (name.append opening).append (colon.append
    (Text.intercalate_induction _ Text.joinable_nil Text.Joinable.append bar alternatives))

/-- Line feeds and the line feed of a closing semicolon may stand around a rule. -/
theorem no_closing_before
    {lead : List Char}
    (isLead : ∀ character ∈ lead, character = '\n')
    {rule : Rule}
    (readable : rule.IsReadable) :
    ¬ ['\n', ';'] <:+: (lead ++ (dialect.rule rule).toList) ++ ['\n', ';'].dropLast := by
  have noSemicolon : ';' ∉ lead :=
    fun member => absurd (isLead ';' member) (by decide)
  have isRule : Text.Joinable '\n' ';' (dialect.rule rule).toList :=
    joinable_rule readable (.inr rfl) fun _ _ => IsWritten.noClosing
  exact Text.apart_iff.1 (((Text.joinable_of_not_mem noSemicolon).append isRule).append
    (by decide)).1

/-- The rules of a readable grammar are counted right. -/
theorem shape_text
    {rules : List Rule}
    (readable : ∀ rule ∈ rules, rule.IsReadable)
    {lead : List Char}
    (isLead : ∀ character ∈ lead, character = '\n') :
    Recount.rules (Text.splitOn ['\n', ';']
        (lead ++ ((dialect.text { rules }).toList ++ ['\n', '\n']))) =
      .ok (Grammar.shape { rules }) := by
  induction rules generalizing lead with
  | nil =>
      have isBlank : ∀ character ∈ lead ++ ['\n', '\n'], Text.isBlank character = true := by
        intro character member
        have isFeed : character = '\n' := by
          rcases List.mem_append.1 member with inLead | inTail
          · exact isLead character inLead
          · simpa using inTail
        rw [isFeed]
        decide
      have noClosing : ¬ ['\n', ';'] <:+: lead ++ ['\n', '\n'] := by
        intro found
        have member : ';' ∈ lead ++ ['\n', '\n'] := found.subset (by decide)
        exact absurd (isBlank ';' member) (by decide)
      have isText : (dialect.text { rules := [] }).toList = [] := rfl
      rw [isText, List.nil_append, Text.splitOn_of_absent noClosing, Recount.rules,
        if_pos (List.all_eq_true.2 isBlank)]
      rfl
  | cons rule others inductionHypothesis =>
      have isReadable := readable rule List.mem_cons_self
      obtain ⟨gap, isGap, isText⟩ := dialect.toList_text_cons rule others
      have later := inductionHypothesis
        (fun other member => readable other (List.mem_cons_of_mem _ member)) isGap
      have whole : lead ++ ((dialect.text { rules := rule :: others }).toList ++ ['\n', '\n']) =
          (lead ++ (dialect.rule rule).toList) ++ (['\n', ';'] ++
            (gap ++ ((dialect.text { rules := others }).toList ++ ['\n', '\n']))) := by
        simp [isText]
      have notBlank : ¬ (lead ++ (dialect.rule rule).toList).all Text.isBlank = true := by
        rw [List.all_eq_true, toList_rule]
        intro isBlank
        exact absurd (isBlank ':' (by simp)) (by decide)
      rw [whole, Text.splitOn_append (List.cons_ne_nil _ _) (no_closing_before isLead isReadable),
        Recount.rules, if_neg notBlank, shape_rule isLead isReadable, later]
      refine congrArg Except.ok ?_
      simp [add, Grammar.shape, Grammar.alternatives, Nat.add_comm]

/-- The rules of a readable grammar hold no section mark. -/
theorem joinable_text
    {rules : List Rule}
    (readable : ∀ rule ∈ rules, rule.IsReadable) :
    Text.Joinable '%' '%' (dialect.text { rules }).toList := by
  induction rules with
  | nil => exact Text.joinable_nil
  | cons rule others inductionHypothesis =>
      obtain ⟨gap, isGap, isText⟩ := dialect.toList_text_cons rule others
      have isRule : Text.Joinable '%' '%' (dialect.rule rule).toList :=
        joinable_rule (readable rule List.mem_cons_self) (.inl rfl) fun _ _ =>
          IsWritten.noSection
      have noMark : Text.Joinable '%' '%' gap :=
        Text.joinable_of_not_mem fun member => absurd (isGap '%' member) (by decide)
      have later := inductionHypothesis fun other member =>
        readable other (List.mem_cons_of_mem _ member)
      have closing : Text.Joinable '%' '%' ['\n', ';'] := by decide
      rw [isText]
      exact isRule.append (closing.append (noMark.append later))

/-- What stands in front of the rules, up to the first section mark. -/
theorem apart_opening
    {name : String}
    (isName : IsName name)
    {feeds : List Char}
    (joinable : Text.Joinable '%' '%' feeds) :
    Text.Apart '%' '%' ("%start ".toList ++ (name.toList ++ feeds)) := by
  have start : Text.Apart '%' '%' "%start ".toList := by decide
  exact start.append ((Text.joinable_of_not_mem (isName.not_mem (by decide))).append joinable)

/-- A readable grammar keeps its shape in every dialect. -/
theorem recount_framed
    (dialect : Dialect)
    {root : Rule}
    {others : List Rule}
    (readable : Grammar.IsReadable { rules := root :: others }) :
    Shape.recount (Grammar.framed root (dialect.text { rules := root :: others })) =
      .ok (Grammar.shape { rules := root :: others }) := by
  have isName := (readable root List.mem_cons_self).name
  have isText : (Grammar.framed root (dialect.text { rules := root :: others })).toList =
      ("%start ".toList ++ (root.lhs.toList ++ ['\n', '\n'])) ++ (['%', '%'] ++
        ((['\n', '\n'] ++ ((dialect.text { rules := root :: others }).toList ++
          ['\n', '\n'])) ++ (['%', '%'] ++ ['\n']))) := by
    simp [Grammar.framed]
  have opening : ¬ ['%', '%'] <:+:
      ("%start ".toList ++ (root.lhs.toList ++ ['\n', '\n'])) ++ ['%', '%'].dropLast := by
    rw [List.append_assoc, List.append_assoc]
    exact Text.apart_iff.1 (apart_opening isName (by decide))
  have body : ¬ ['%', '%'] <:+:
      (['\n', '\n'] ++ ((dialect.text { rules := root :: others }).toList ++
        ['\n', '\n'])) ++ ['%', '%'].dropLast := by
    have feeds : Text.Joinable '%' '%' ['\n', '\n'] := by decide
    have closing : Text.Joinable '%' '%' ['\n', '\n', '%'] := by decide
    rw [List.append_assoc, List.append_assoc]
    exact Text.apart_iff.1 (feeds.append ((joinable_text readable).append closing)).1
  rw [Shape.recount, isText, Text.splitOn_append (List.cons_ne_nil _ _) opening,
    Text.splitOn_append (List.cons_ne_nil _ _) body]
  exact shape_text readable (by simp)

/-- The dialect that adds nothing. -/
def plain : Dialect where
  opening := ""
  write := Alternative.text
  noMark := by simp
  isWritten alternative readable := {
    noBar := bar_not_mem readable
    noSection := joinable_alternative readable (by decide)
      fun _ quotable => Text.apart_iff.2 quotable.noSection
    noClosing := joinable_alternative readable (by decide)
      fun _ quotable => Text.apart_iff.2 quotable.noClosing
    counts := by
      rintro trail (rfl | rfl)
      · rw [symbols_blank, symbols_append_alternative readable (.inl rfl)]
        exact Nat.zero_add _
      · rw [symbols_blank, symbols_append_alternative readable (.inr ⟨_, rfl⟩)]
        exact Nat.zero_add _ }

/-- An action block stands behind the symbols of an alternative, or is all of it. -/
theorem toList_withAction
    {alternative : Alternative}
    (separable : ∀ symbol ∈ alternative.symbols, IsSeparable symbol) :
    (Grammar.withAction alternative).toList =
      if alternative.symbols = [] then actionBlock
      else alternative.text.toList ++ ' ' :: actionBlock := by
  rw [Grammar.withAction, String.toList_ofList]
  split
  · rename_i isEmpty
    rw [Alternative.text, isEmpty]
    decide
  · rename_i nonempty
    obtain ⟨first, rest, isText, isStart⟩ := alternative_starts separable nonempty
    rw [String.toList_append, isText, List.cons_append, Text.trimLeft,
      List.dropWhile_cons_of_neg (by simp [isStart.not_isBlank])]
    rfl

/-- The dialect with an action block behind every alternative. -/
def withActions : Dialect where
  opening := " -> ()"
  write := Grammar.withAction
  noMark := by simp
  isWritten alternative readable := by
    have isPlain := plain.isWritten alternative readable
    have block : Text.Joinable '%' '%' actionBlock ∧ Text.Joinable '\n' ';' actionBlock ∧
        Text.Joinable '%' '%' (' ' :: actionBlock) ∧
        Text.Joinable '\n' ';' (' ' :: actionBlock) := by decide
    obtain ⟨noSection, noClosing, noSectionBehind, noClosingBehind⟩ := block
    rw [toList_withAction fun symbol member => (readable symbol member).isSeparable]
    split
    · rename_i isEmpty
      refine ⟨by decide, noSection, noClosing, ?_⟩
      rw [Alternative.length, isEmpty]
      rintro trail (rfl | rfl) <;> decide
    · refine ⟨?_, isPlain.noSection.append noSectionBehind,
        isPlain.noClosing.append noClosingBehind, ?_⟩
      · rw [List.mem_append, not_or]
        exact ⟨isPlain.noBar, by decide⟩
      · rintro trail (rfl | rfl) <;>
          rw [List.append_assoc, List.cons_append, symbols_blank,
            symbols_append_alternative readable (.inr ⟨_, rfl⟩)] <;>
          exact Nat.zero_add _

/-- Nothing is added to the text of a grammar. -/
theorem text_plain (grammar : Grammar) : plain.text grammar = grammar.text := by
  simp [text, Dialect.rule, plain, Grammar.text, Rule.text]

/-- The text with actions is that of the rules with actions. -/
theorem text_withActions (grammar : Grammar) :
    withActions.text grammar = "\n".intercalate (grammar.rules.map Grammar.ruleWithActions) := by
  have isRule : ∀ rule : Rule, withActions.rule rule ++ "\n;" = Grammar.ruleWithActions rule := by
    intro rule
    rw [← String.toList_inj]
    simp [Dialect.rule, withActions, Grammar.ruleWithActions]
  rw [text]
  exact congrArg _ (List.map_congr_left fun rule _ => isRule rule)

end Dialect

end Recount

namespace Shape

/-- A directive in front, on a line of its own and without marks, changes no count. -/
theorem recount_append
    {line text : String}
    (apart : Text.Apart '%' '%' line.toList)
    (isLast : line.toList.getLast? ≠ some '%') :
    recount (line ++ text) = recount text := by
  obtain ⟨piece, pieces, split⟩ := Text.exists_splitOn ['%', '%'] text.toList
  rw [recount, recount, String.toList_append,
    Text.splitOn_append_of_apart apart isLast split, split]
  cases pieces <;> rfl

end Shape

namespace Grammar

/--
The three renderings of a grammar with a rule exist, and the text with the directive is
counted like the plain one, or refused like it, whatever its names are. If the grammar is
readable then its true shape is read back from each of the three.
-/
theorem recount_renderings
    (grammar : Grammar)
    (nonempty : grammar.rules ≠ []) :
    ∃ canonical bison grmtools,
      grammar.canonical? = some canonical ∧
        grammar.bison? = some bison ∧
        grammar.grmtools? = some grmtools ∧
        Shape.recount bison = Shape.recount canonical ∧
        (grammar.IsReadable →
          Shape.recount canonical = .ok grammar.shape ∧
            Shape.recount bison = .ok grammar.shape ∧
            Shape.recount grmtools = .ok grammar.shape) := by
  obtain ⟨rules⟩ := grammar
  obtain ⟨root, others, rfl⟩ := List.exists_cons_of_ne_nil nonempty
  have directive : ∀ text : String,
      Shape.recount ("%define lr.type canonical-lr\n" ++ text) = Shape.recount text :=
    fun text => Shape.recount_append (by decide) (by decide)
  refine ⟨_, _, _, rfl, rfl, rfl, directive _, fun readable => ?_⟩
  have plain := Recount.Dialect.plain.recount_framed readable
  have withActions := Recount.Dialect.withActions.recount_framed readable
  rw [Recount.Dialect.text_plain] at plain
  rw [Recount.Dialect.text_withActions] at withActions
  exact ⟨plain, (directive _).trans plain, withActions⟩

/--
Names of digits and underscores, marks of one character, halves of the longer marks, action
blocks, line feeds and nothing at all in apostrophes, and alternatives without symbols.
-/
theorem recount_renderings_of_marks :
    let grammar : Grammar := { rules := [
      ⟨"_0", [⟨[.terminal "%", .terminal "%", .terminal "\n", .terminal ";\n", .nonterminal "a1"]⟩,
        ⟨[]⟩, ⟨[.terminal "\x7b \x7d", .terminal "\x7b\x7b \x7d \x7d"]⟩]⟩,
      ⟨"a1", [⟨[.terminal ": x ->", .terminal "", .terminal "é b"]⟩]⟩] }
    grammar.rules ≠ [] ∧ grammar.IsReadable ∧
      grammar.shape = { rules := 2, alternatives := 4, symbols := 10 } ∧
      ∃ canonical bison grmtools,
        grammar.canonical? = some canonical ∧
          grammar.bison? = some bison ∧
          grammar.grmtools? = some grmtools ∧
          Shape.recount canonical = .ok grammar.shape ∧
          Shape.recount bison = .ok grammar.shape ∧
          Shape.recount grmtools = .ok grammar.shape := by
  intro grammar
  have nonempty : grammar.rules ≠ [] := List.cons_ne_nil _ _
  have readable : grammar.IsReadable := by decide +kernel
  obtain ⟨canonical, bison, grmtools, isCanonical, isBison, isGrmtools, -, counted⟩ :=
    recount_renderings grammar nonempty
  exact ⟨nonempty, readable, by decide +kernel, canonical, bison, grmtools, isCanonical, isBison,
    isGrmtools, counted readable⟩

end Grammar

end GrammarCorpus
