import GrammarCorpus.Total

namespace GrammarCorpus

/-!
# Context-free grammars

A grammar is an ordered list of rules, the first of which is its root. Terminals
are written between apostrophes and nonterminals by their bare name, so one
written form belongs to each symbol, alternative, rule and grammar.

Nothing is demanded of a grammar here: left-hand sides may repeat, names may
lack a rule, and the list of rules may be empty. What generated grammars satisfy
beyond that is the business of `GrammarCorpus.Generator`.
-/

/-- One symbol of a right-hand side. -/
inductive Symbol where
  /-- A token of the described language. -/
  | terminal (name : String)
  /-- A name that some rule should define. -/
  | nonterminal (name : String)
deriving DecidableEq, Repr

namespace Symbol

/-- The bare name of a symbol of either kind. -/
def name : Symbol → String
  | terminal name => name
  | nonterminal name => name

/-- The name of a terminal. -/
def terminal? : Symbol → Option String
  | terminal name => some name
  | nonterminal _ => none

/-- The name of a nonterminal. -/
def nonterminal? : Symbol → Option String
  | terminal _ => none
  | nonterminal name => some name

/-- The written form: terminals stand between apostrophes. -/
def text : Symbol → String
  | terminal name => "'" ++ name ++ "'"
  | nonterminal name => name

end Symbol

/-- One right-hand side of a rule. Without symbols it derives the empty string. -/
structure Alternative where
  symbols : List Symbol
deriving DecidableEq, Repr

namespace Alternative

/-- The number of symbols. -/
def length (alternative : Alternative) : Nat :=
  alternative.symbols.length

/-- Whether the alternative derives the empty string directly. -/
def isEmpty (alternative : Alternative) : Bool :=
  alternative.symbols.isEmpty

/-- The nonterminals mentioned, in order and with repetitions. -/
def nonterminals (alternative : Alternative) : List String :=
  alternative.symbols.filterMap Symbol.nonterminal?

/-- The terminals mentioned, in order and with repetitions. -/
def terminals (alternative : Alternative) : List String :=
  alternative.symbols.filterMap Symbol.terminal?

/-- The written form: symbols with one blank between neighbours. -/
def text (alternative : Alternative) : String :=
  " ".intercalate (alternative.symbols.map Symbol.text)

end Alternative

/-- A name together with its right-hand sides. -/
structure Rule where
  lhs : String
  alternatives : List Alternative
deriving DecidableEq, Repr

namespace Rule

/-- The nonterminals mentioned by any alternative, in order and with repetitions. -/
def nonterminals (rule : Rule) : List String :=
  rule.alternatives.flatMap Alternative.nonterminals

/-- The written form, without the semicolon that closes a rule in a grammar. -/
def text (rule : Rule) : String :=
  rule.lhs ++ ": " ++ " | ".intercalate (rule.alternatives.map Alternative.text)

end Rule

/-- The size of a grammar, counted three ways. -/
structure Shape where
  rules : Nat
  alternatives : Nat
  symbols : Nat
deriving DecidableEq, Repr

/-- Rules in order; the first one is the root. -/
structure Grammar where
  rules : List Rule
deriving DecidableEq, Repr

namespace Grammar

/-- The start rule. -/
def root? (grammar : Grammar) : Option Rule :=
  grammar.rules.head?

/-- The first rule for a name. -/
def rule? (grammar : Grammar) (lhs : String) : Option Rule :=
  grammar.rules.find? (fun rule => rule.lhs = lhs)

/-- The left-hand sides, in rule order. -/
def names (grammar : Grammar) : List String :=
  grammar.rules.map Rule.lhs

/-- All right-hand sides, in rule order. -/
def alternatives (grammar : Grammar) : List Alternative :=
  grammar.rules.flatMap Rule.alternatives

/-- The nonterminals mentioned anywhere, each once. -/
def mentioned (grammar : Grammar) : List String :=
  (grammar.alternatives.flatMap Alternative.nonterminals).eraseDups

/-- The distinct terminals, in increasing order of their code points. -/
def terminals (grammar : Grammar) : List String :=
  (grammar.alternatives.flatMap Alternative.terminals).eraseDups.mergeSort

/-- The numbers of rules, of alternatives and of symbols. -/
def shape (grammar : Grammar) : Shape where
  rules := grammar.rules.length
  alternatives := total (grammar.rules.map fun rule => rule.alternatives.length)
  symbols := total (grammar.alternatives.map Alternative.length)

/-- The written form: every rule is closed by a semicolon on a line of its own. -/
def text (grammar : Grammar) : String :=
  "\n".intercalate (grammar.rules.map fun rule => rule.text ++ "\n;")

end Grammar

end GrammarCorpus
