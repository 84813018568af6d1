import GrammarCorpus.Grammar
import GrammarCorpus.Text.Blank

namespace GrammarCorpus

/-!
# Renderings of a grammar

Three dialects describe the same grammar to three parser generators, and a lexer
description goes with one of them. The dialects share one frame: a line naming
the root, then the rules between two section marks.

A grammar without rules has no root to name, so the three dialects yield nothing
for it. The lexer description always exists.
-/

namespace Grammar

/-- Wraps a body of rules into the line naming the root and the section marks. -/
def framed (root : Rule) (body : String) : String :=
  "%start " ++ root.lhs ++ "\n\n%%\n\n" ++ body ++ "\n\n%%\n"

/-- The plain dialect. -/
def canonical? (grammar : Grammar) : Option String :=
  grammar.root?.map fun root => framed root grammar.text

/-- The plain dialect behind a directive that asks for canonical LR(1) tables. -/
def bison? (grammar : Grammar) : Option String :=
  grammar.canonical?.map fun text => "%define lr.type canonical-lr\n" ++ text

/--
An alternative followed by an empty action block. Blank characters in front are
dropped, so that an alternative without symbols is the bare action block.
-/
def withAction (alternative : Alternative) : String :=
  String.ofList (Text.trimLeft (alternative.text ++ " \x7b \x7d").toList)

/-- A rule whose alternatives carry empty action blocks of unit type. -/
def ruleWithActions (rule : Rule) : String :=
  rule.lhs ++ " -> (): " ++ " | ".intercalate (rule.alternatives.map withAction) ++ "\n;"

/-- The dialect with a type and an action block for every rule and alternative. -/
def grmtools? (grammar : Grammar) : Option String :=
  grammar.root?.map fun root =>
    framed root ("\n".intercalate (grammar.rules.map ruleWithActions))

/-- One line of the lexer description: the lexeme, a blank, and the token's name. -/
def lexerLine (terminal : String) : String :=
  terminal ++ " \"" ++ terminal ++ "\""

/-- The line that makes a lexer pass over tabs, line feeds and blanks. -/
def skipLine : String :=
  "[\\t\\n ]+ ;"

/-- The lexer description: a line for every terminal, and the skipping line last. -/
def lexer (grammar : Grammar) : String :=
  "%%\n" ++ "\n".intercalate (grammar.terminals.map lexerLine ++ [skipLine]) ++ "\n"

end Grammar

end GrammarCorpus
