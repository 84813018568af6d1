import GrammarCorpus.Proofs.Productivity
import Mathlib.Computability.ContextFreeGrammar

/-!
# Complete derivations

A form is complete when nothing but terminals is left in it. A rule is used when some
derivation of a complete form applies it. For that its name has to occur between two
forms that can be completed, and its right-hand side has to be one itself.

Both parts pass from rules on to names: a name can be completed if one alternative of
it can, and a name occurs if an alternative mentions it whose own name occurs and whose
other symbols can be completed. The first is what productive names have in common, and
the second is what names reached from the root have in common.
-/

namespace ContextFreeGrammar

variable {T : Type} {g : ContextFreeGrammar T}

/-- From the form some word can be derived; the empty word is one. -/
def Completes (g : ContextFreeGrammar T) (form : List (Symbol T g.NT)) : Prop :=
  ∃ word : List T, g.Derives form (word.map Symbol.terminal)

/-- A rule of the grammar is applied by some derivation that starts from the initial name
and ends in a word. -/
def Uses (g : ContextFreeGrammar T) (rule : ContextFreeRule T g.NT) : Prop :=
  rule ∈ g.rules ∧
    ∃ before after, g.Generates before ∧ rule.Rewrites before after ∧ g.Completes after

/-- A name occurs in a derived form whose other parts can be completed. -/
def Occurs (g : ContextFreeGrammar T) (name : g.NT) : Prop :=
  ∃ left right,
    g.Generates (left ++ [Symbol.nonterminal name] ++ right) ∧
      g.Completes left ∧ g.Completes right

/-- The empty form is complete. -/
theorem completes_nil : g.Completes [] :=
  ⟨[], .refl []⟩

/-- A terminal is complete. -/
theorem completes_terminal (terminal : T) : g.Completes [.terminal terminal] :=
  ⟨[terminal], .refl _⟩

namespace Completes

/-- Two forms are completed one after the other. -/
theorem append
    {first second : List (Symbol T g.NT)}
    (completesFirst : g.Completes first)
    (completesSecond : g.Completes second) :
    g.Completes (first ++ second) := by
  obtain ⟨word, derivesWord⟩ := completesFirst
  obtain ⟨other, derivesOther⟩ := completesSecond
  refine ⟨word ++ other, ?_⟩
  rw [List.map_append]
  exact (derivesWord.append_right second).trans (derivesOther.append_left _)

/-- A form can be completed if each of its symbols can. -/
theorem of_forall
    {form : List (Symbol T g.NT)}
    (each : ∀ symbol ∈ form, g.Completes [symbol]) :
    g.Completes form := by
  induction form with
  | nil => exact completes_nil
  | cons symbol form inductionHypothesis =>
      have completesFirst := each symbol (List.mem_cons_self ..)
      refine completesFirst.append (inductionHypothesis ?_)
      intro other member
      exact each other (List.mem_cons_of_mem _ member)

/-- A form can be completed if it leads to one that can. -/
theorem of_derives
    {form other : List (Symbol T g.NT)}
    (derives : g.Derives form other)
    (completes : g.Completes other) :
    g.Completes form := by
  obtain ⟨word, derivesWord⟩ := completes
  exact ⟨word, derives.trans derivesWord⟩

/-- A name can be completed if the right-hand side of one of its rules can. -/
theorem of_output
    {rule : ContextFreeRule T g.NT}
    (member : rule ∈ g.rules)
    (completes : g.Completes rule.output) :
    g.Completes [.nonterminal rule.input] :=
  of_derives (Produces.single ⟨rule, member, .input_output⟩) completes

/-- What passes from right-hand sides on to names holds of all names that can be completed. -/
theorem induction
    {form : List (Symbol T g.NT)}
    (completes : g.Completes form)
    (property : g.NT → Prop)
    (passes : ∀ rule ∈ g.rules,
      (∀ name, .nonterminal name ∈ rule.output → property name) → property rule.input) :
    ∀ name, .nonterminal name ∈ form → property name := by
  obtain ⟨word, derives⟩ := completes
  -- From the word back to the form; each step puts a name in the place of a right-hand side.
  induction derives using Relation.ReflTransGen.head_induction_on with
  | refl =>
      intro name member
      obtain ⟨terminal, -, same⟩ := List.mem_map.1 member
      cases same
  | head produces _ inductionHypothesis =>
      obtain ⟨rule, isRule, rewrites⟩ := produces
      obtain ⟨left, right, rfl, rfl⟩ := rewrites.exists_parts
      have holds : property rule.input :=
        passes rule isRule fun name member => inductionHypothesis name (by simp [member])
      intro name member
      by_cases same : name = rule.input
      · exact same ▸ holds
      · refine inductionHypothesis name ?_
        simp only [List.mem_append, List.mem_singleton, Symbol.nonterminal.injEq, same,
          or_false] at member
        rcases member with isLeft | isRight
        · exact List.mem_append_left _ (List.mem_append_left _ isLeft)
        · exact List.mem_append_right _ isRight

end Completes

/-- The initial name occurs by itself. -/
theorem occurs_initial : g.Occurs g.initial :=
  ⟨[], [], .refl _, completes_nil, completes_nil⟩

namespace Occurs

/-- Where the name of a rule occurs, its right-hand side can stand. -/
theorem generates_output
    {rule : ContextFreeRule T g.NT}
    {left right : List (Symbol T g.NT)}
    (member : rule ∈ g.rules)
    (generates : g.Generates (left ++ [Symbol.nonterminal rule.input] ++ right)) :
    g.Generates (left ++ rule.output ++ right) :=
  Derives.trans_produces generates
    ⟨rule, member, rule.rewrites_of_exists_parts left right⟩

/-- A name occurs if the right-hand side of an occurring name mentions it. -/
theorem of_output
    {rule : ContextFreeRule T g.NT}
    {left right : List (Symbol T g.NT)}
    {name : g.NT}
    (occurs : g.Occurs rule.input)
    (member : rule ∈ g.rules)
    (output : rule.output = left ++ [.nonterminal name] ++ right)
    (completesLeft : g.Completes left)
    (completesRight : g.Completes right) :
    g.Occurs name := by
  obtain ⟨farLeft, farRight, generates, completesFarLeft, completesFarRight⟩ := occurs
  refine ⟨farLeft ++ left, right ++ farRight, ?_, completesFarLeft.append completesLeft,
    completesRight.append completesFarRight⟩
  have generatesOutput := generates_output member generates
  rw [output] at generatesOutput
  simpa only [List.append_assoc] using generatesOutput

/-- A rule is used if its name occurs and its right-hand side can be completed. -/
theorem uses
    {rule : ContextFreeRule T g.NT}
    (occurs : g.Occurs rule.input)
    (member : rule ∈ g.rules)
    (completes : g.Completes rule.output) :
    g.Uses rule := by
  obtain ⟨left, right, generates, completesLeft, completesRight⟩ := occurs
  exact ⟨member, _, _, generates, rule.rewrites_of_exists_parts left right,
    (completesLeft.append completes).append completesRight⟩

end Occurs

/-- A symbol of a grammar over texts. -/
def ofSymbol : GrammarCorpus.Symbol → Symbol String String
  | .terminal name => .terminal name
  | .nonterminal name => .nonterminal name

end ContextFreeGrammar

namespace GrammarCorpus

open ContextFreeGrammar (Completes completes_terminal ofSymbol)

/-- The rewriting rule that an alternative of a name is. -/
def Alternative.production
    (lhs : String)
    (alternative : Alternative) :
    ContextFreeRule String String where
  input := lhs
  output := alternative.symbols.map ofSymbol

namespace Grammar

/-- All rewriting rules of a grammar. -/
def productions (grammar : Grammar) : List (ContextFreeRule String String) :=
  grammar.rules.flatMap fun rule =>
    rule.alternatives.map fun alternative => alternative.production rule.lhs

/-- A grammar as a system of rewriting rules that starts from a name. -/
abbrev rewriting (grammar : Grammar) (start : String) : ContextFreeGrammar String where
  NT := String
  initial := start
  rules := grammar.productions.toFinset

/--
A grammar is reduced if nothing in it is in vain: every name that occurs has a rule, and
every alternative of every rule is used by a derivation of a word from the start. In
particular some word can be derived from the start.
-/
structure IsReduced (grammar : Grammar) (start : String) : Prop where
  startDefined : start ∈ grammar.names
  defined : ∀ name ∈ grammar.mentioned, name ∈ grammar.names
  used : ∀ rule ∈ grammar.rules, ∀ alternative ∈ rule.alternatives,
    (grammar.rewriting start).Uses (alternative.production rule.lhs)
  startCompletes : (grammar.rewriting start).Completes [.nonterminal start]

variable {grammar : Grammar} {start : String}

/-- The alternatives of all rules are what a grammar rewrites by. -/
theorem production_mem
    {rule : Rule}
    {alternative : Alternative}
    (isRule : rule ∈ grammar.rules)
    (member : alternative ∈ rule.alternatives) :
    alternative.production rule.lhs ∈ (grammar.rewriting start).rules := by
  rw [List.mem_toFinset]
  exact List.mem_flatMap.2 ⟨rule, isRule, List.mem_map.2 ⟨alternative, member, rfl⟩⟩

/-- Symbols can be completed if all names among them can. -/
theorem completes_symbols
    {symbols : List Symbol}
    (each : ∀ name, .nonterminal name ∈ symbols →
      (grammar.rewriting start).Completes [.nonterminal name]) :
    (grammar.rewriting start).Completes (symbols.map ofSymbol) := by
  apply Completes.of_forall
  intro symbol member
  obtain ⟨written, isWritten, rfl⟩ := List.mem_map.1 member
  cases written with
  | terminal name => exact completes_terminal name
  | nonterminal name => exact each name isWritten

/-- Productive names can be completed, whatever the start. -/
theorem completes_of_productive
    (start : String)
    {name : String}
    (isProductive : name ∈ grammar.productive) :
    (grammar.rewriting start).Completes [.nonterminal name] := by
  refine productive_induction
    (fun other => (grammar.rewriting start).Completes [.nonterminal other]) ?_ name isProductive
  intro rule isRule alternative member each
  have isProduction : alternative.production rule.lhs ∈ (grammar.rewriting start).rules :=
    production_mem (List.mem_of_mem_drop isRule) member
  refine Completes.of_output isProduction (completes_symbols ?_)
  intro other mentions
  exact each other (Alternative.mem_nonterminals.2 mentions)

/-- A mentioned name occurs if its alternative belongs to an occurring name. -/
theorem occurs_of_mentioned
    {rule : Rule}
    {alternative : Alternative}
    {name : String}
    (isRule : rule ∈ grammar.rules)
    (member : alternative ∈ rule.alternatives)
    (occurs : (grammar.rewriting start).Occurs rule.lhs)
    (each : ∀ other, .nonterminal other ∈ alternative.symbols →
      (grammar.rewriting start).Completes [.nonterminal other])
    (mentions : .nonterminal name ∈ alternative.symbols) :
    (grammar.rewriting start).Occurs name := by
  obtain ⟨left, right, symbols⟩ := List.append_of_mem mentions
  have output :
      (alternative.production rule.lhs).output =
        left.map ofSymbol ++ [.nonterminal name] ++ right.map ofSymbol := by
    simp [Alternative.production, symbols, ofSymbol]
  refine occurs.of_output (production_mem isRule member) output ?_ ?_
  · refine completes_symbols fun other isOther => each other ?_
    exact symbols ▸ List.mem_append_left _ isOther
  · refine completes_symbols fun other isOther => each other ?_
    exact symbols ▸ List.mem_append_right _ (List.mem_cons_of_mem _ isOther)

section Mentioned

variable
    (isProductive : grammar.isProductive = true)
    (defined : ∀ rule ∈ grammar.rules, ∀ name ∈ rule.nonterminals,
      name ∈ grammar.names.drop 1)

include isProductive defined

/-- Every mentioned name can be completed if all of them have productive rules. -/
theorem completes_of_mentioned
    (start : String)
    {rule : Rule}
    {alternative : Alternative}
    {name : String}
    (isRule : rule ∈ grammar.rules)
    (member : alternative ∈ rule.alternatives)
    (mentions : .nonterminal name ∈ alternative.symbols) :
    (grammar.rewriting start).Completes [.nonterminal name] := by
  have isName : name ∈ grammar.names.drop 1 :=
    defined rule isRule name (Rule.mem_nonterminals.2 ⟨alternative, member, mentions⟩)
  have productive := List.all_eq_true.1 isProductive name isName
  exact completes_of_productive start (List.contains_iff_mem.1 productive)

/-- Every alternative of an occurring name is used. -/
theorem uses_of_occurs
    {rule : Rule}
    {alternative : Alternative}
    (isRule : rule ∈ grammar.rules)
    (member : alternative ∈ rule.alternatives)
    (occurs : (grammar.rewriting start).Occurs rule.lhs) :
    (grammar.rewriting start).Uses (alternative.production rule.lhs) := by
  have isProduction : alternative.production rule.lhs ∈ (grammar.rewriting start).rules :=
    production_mem isRule member
  refine occurs.uses isProduction (completes_symbols ?_)
  intro name mentions
  exact completes_of_mentioned isProductive defined start isRule member mentions

/-- A rule passes on to the names that it mentions that they occur. -/
theorem occurs_of_rule
    {rule : Rule}
    {name : String}
    (isRule : rule ∈ grammar.rules)
    (occurs : (grammar.rewriting start).Occurs rule.lhs)
    (mentions : name ∈ rule.nonterminals) :
    (grammar.rewriting start).Occurs name := by
  obtain ⟨alternative, member, isMentioned⟩ := Rule.mem_nonterminals.1 mentions
  refine occurs_of_mentioned isRule member occurs ?_ isMentioned
  intro other mentionsOther
  exact completes_of_mentioned isProductive defined start isRule member mentionsOther

/--
A grammar is reduced if all names that it mentions have productive rules behind the
root, the root has an alternative, and what holds of the root and passes from rules on
to names holds of all names with rules.
-/
theorem isReduced_of_productive
    {root : Rule}
    (isRoot : grammar.root? = some root)
    (startable : root.alternatives ≠ [])
    (reached : ∀ property : String → Prop,
      property root.lhs →
      (∀ rule ∈ grammar.rules, property rule.lhs →
        ∀ name ∈ rule.nonterminals, property name) →
      ∀ rule ∈ grammar.rules, property rule.lhs) :
    grammar.IsReduced root.lhs := by
  have isRule : root ∈ grammar.rules := List.mem_of_mem_head? isRoot
  constructor
  · exact List.mem_map.2 ⟨root, isRule, rfl⟩
  · intro name isMentioned
    obtain ⟨rule, isMember, mentions⟩ := mem_mentioned.1 isMentioned
    exact List.mem_of_mem_drop (defined rule isMember name mentions)
  · intro rule isMember alternative member
    refine uses_of_occurs isProductive defined isMember member ?_
    refine reached (fun name => (grammar.rewriting root.lhs).Occurs name)
      ContextFreeGrammar.occurs_initial ?_ rule isMember
    intro other isOther occurs name mentions
    exact occurs_of_rule isProductive defined isOther occurs mentions
  · obtain ⟨alternative, member⟩ := List.exists_mem_of_ne_nil _ startable
    have isProduction :
        alternative.production root.lhs ∈ (grammar.rewriting root.lhs).rules :=
      production_mem isRule member
    refine Completes.of_output isProduction (completes_symbols ?_)
    intro name mentions
    exact completes_of_mentioned isProductive defined root.lhs isRule member mentions

end Mentioned

end Grammar

end GrammarCorpus
