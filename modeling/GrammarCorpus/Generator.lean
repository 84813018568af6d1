import GrammarCorpus.Config
import GrammarCorpus.Frontier
import GrammarCorpus.Productivity
import GrammarCorpus.Random.Source
import GrammarCorpus.Reachability
import GrammarCorpus.Text.Numeral

namespace GrammarCorpus

/-!
# Generating random grammars

A grammar of a given size is drawn over a random part of the alphabets. Rules are
drawn only for names that have been mentioned: the root first, then every name in
the order of its first mention. A grammar in which a selected name is never
mentioned, or in which some rule behind the root is not productive, is given up.

Alternatives that would be degenerate are drawn again: the empty one where it would
be the only one, and one whose written form its rule has already. A rule for which
no fresh alternative turns up in time also makes the grammar be given up.
-/

/-- Why the generator stops without a grammar. -/
inductive GenerationError where
  | emptyRange (least greatest : Int)
  | nothingToChoose
  | sampleTooLarge
  /--
  No alternative of a rule was fresh. The number of draws that were allowed is written into the
  message, and is taken to have no more than `Text.digitLimit` digits: the limit is not modelled
  here, though a longer number cannot be written and would be a failure of its own.
  -/
  | exhausted (lhs : String) (retries : Int)
  | sizeTooSmall (size : Int)
  | alphabetTooSmall (size : Int)
deriving DecidableEq, Repr

namespace GenerationError

/-- The wording of a failure. -/
def message : GenerationError → String
  | emptyRange least greatest =>
      let numbers := [least, greatest + 1, greatest + 1 - least]
      if numbers.any Text.isTooLong then
        s!"Exceeds the limit ({Text.digitLimit} digits) for integer string conversion; " ++
          "use sys.set_int_max_str_digits() to increase the limit"
      else
        "empty range for randrange() (" ++ ", ".intercalate (numbers.map toString) ++ ")"
  | nothingToChoose => "Cannot choose from an empty sequence"
  | sampleTooLarge => "Sample larger than population or is negative"
  | exhausted lhs retries => s!"{lhs}: no fresh alternative after {retries} draws"
  | sizeTooSmall size => s!"grammar size must be >= 2, got {size}"
  | alphabetTooSmall size => s!"alphabet too small for grammar size {size}"

end GenerationError

/-- A computation that makes random choices and may fail; choices made are not undone. -/
abbrev Draw (σ : Type) :=
  ExceptT GenerationError (StateM σ)

namespace Draw

variable {σ : Type} [RandomSource σ]

/-- An integer from one bound to the other. -/
def between (least greatest : Int) : Draw σ Int := do
  match ← ExceptT.lift (RandomSource.between? least greatest) with
  | some value => return value
  | none => throw (.emptyRange least greatest)

/-- One of several items. -/
def choose {α : Type} (items : List α) : Draw σ α := do
  match (← ExceptT.lift (RandomSource.position? items.length)).bind (items[·]?) with
  | some item => return item
  | none => throw .nothingToChoose

/-- Several items at distinct positions. -/
def sample {α : Type} (items : List α) (count : Nat) : Draw σ (List α) := do
  match ← ExceptT.lift (RandomSource.positions? items.length count) with
  | some positions => return positions.filterMap (items[·]?)
  | none => throw .sampleTooLarge

end Draw

/-- What rules are drawn from: a configuration and the selected part of its alphabets. -/
structure Generator where
  config : Config
  nonterminals : List String
  terminals : List String

namespace Generator

variable {σ : Type} [RandomSource σ]

/-- All symbols that alternatives may hold. The root is none of them. -/
def pool (generator : Generator) : List Symbol :=
  generator.terminals.map .terminal ++ generator.nonterminals.map .nonterminal

/-- The symbols for a rule: a rule never mentions itself. -/
def candidates (generator : Generator) (lhs : String) : List Symbol :=
  generator.pool.filter (· ≠ .nonterminal lhs)

/-- The least number of symbols of an alternative. -/
def leastSymbols (generator : Generator) (isRoot : Bool) : Int :=
  if isRoot then generator.config.rootMinSymbols else generator.config.minSymbols

/-- Draws so many symbols. -/
def symbols (candidates : List Symbol) : Nat → Draw σ (List Symbol)
  | 0 => return []
  | count + 1 => do
      let first ← Draw.choose candidates
      let others ← symbols candidates count
      return first :: others

/--
Draws one alternative. A single symbol in a root alternative is a nonterminal, as
nothing could be expanded behind a terminal.
-/
def alternative
    (generator : Generator)
    (lhs : String)
    (isRoot : Bool) :
    Draw σ Alternative := do
  let count ← Draw.between (generator.leastSymbols isRoot) generator.config.maxSymbols
  let candidates := generator.candidates lhs
  if isRoot && count = 1 then
    let names := candidates.filter fun symbol => symbol.nonterminal?.isSome
    let only ← Draw.choose names
    return { symbols := [only] }
  else
    let drawn ← symbols candidates count.toNat
    return { symbols := drawn }

/-- Whether an alternative may join those that its rule has already. -/
def isFresh (sole : Bool) (taken : List Alternative) (drawn : Alternative) : Bool :=
  !(sole && drawn.isEmpty) && !(taken.map Alternative.text).contains drawn.text

/--
Draws until an alternative is fresh, so many times at most. What is thrown then has the number
that is configured, of which it is assumed that it can be written.
-/
def freshWithin
    (generator : Generator)
    (lhs : String)
    (isRoot sole : Bool)
    (taken : List Alternative) :
    Nat → Draw σ Alternative
  | 0 => throw (.exhausted lhs generator.config.maxRetries)
  | retries + 1 => do
      let drawn ← generator.alternative lhs isRoot
      if isFresh sole taken drawn then
        return drawn
      else
        freshWithin generator lhs isRoot sole taken retries

/-- Draws an alternative that is fresh beside those already taken. -/
def freshAlternative
    (generator : Generator)
    (lhs : String)
    (isRoot sole : Bool)
    (taken : List Alternative) :
    Draw σ Alternative :=
  generator.freshWithin lhs isRoot sole taken generator.config.maxRetries.toNat

/-- Draws so many further alternatives behind those already taken. -/
def alternatives
    (generator : Generator)
    (lhs : String)
    (isRoot sole : Bool)
    (taken : List Alternative) :
    Nat → Draw σ (List Alternative)
  | 0 => return taken
  | count + 1 => do
      let drawn ← generator.freshAlternative lhs isRoot sole taken
      alternatives generator lhs isRoot sole (taken ++ [drawn]) count

/-- Draws the rule for a name. -/
def rule
    (generator : Generator)
    (lhs : String)
    (isRoot : Bool) :
    Draw σ Rule := do
  let count ←
    Draw.between generator.config.minAlternatives generator.config.maxAlternatives
  let drawn ← generator.alternatives lhs isRoot (count = 1) [] count.toNat
  return { lhs := lhs, alternatives := drawn }

end Generator

namespace Expansion

/--
Asks for a rule for every waiting name, in order; names that a rule mentions for the
first time wait behind the others.
-/
def rules
    {m : Type → Type}
    [Monad m]
    (ruleFor : String → m Rule) :
    Frontier → m (List Rule)
  | { waiting := [], unseen := _ } => return []
  | { waiting := name :: rest, unseen } => do
      let rule ← ruleFor name
      let later ← rules ruleFor
        (rule.nonterminals.foldl Frontier.enqueue { waiting := rest, unseen })
      return rule :: later
termination_by frontier => frontier.size
decreasing_by
  refine Nat.lt_of_le_of_lt (Frontier.size_foldl_enqueue_le _ _) ?_
  simp [Frontier.size]

/-- The rules of the root and of all that it reaches. Only the given names are met. -/
def fromRoot
    {m : Type → Type}
    [Monad m]
    (rootRule : m Rule)
    (ruleFor : String → m Rule)
    (names : List String) :
    m (List Rule) := do
  let root ← rootRule
  let start : Frontier :=
    { waiting := [], unseen := Frontier.forget root.lhs names.eraseDups }
  let others ← rules ruleFor (root.nonterminals.foldl Frontier.enqueue start)
  return root :: others

/-- The rule that a table holds for a name: the last one, if there are several. -/
def lookup (table : List Rule) (name : String) : Except String Rule :=
  match table.reverse.find? (fun rule => rule.lhs = name) with
  | some rule => .ok rule
  | none => .error name

/-- Expands from the rules of a table; fails with the first name that has no rule. -/
def fromTable (table : List Rule) (rootName : String) : Except String (List Rule) :=
  fromRoot (lookup table rootName) (lookup table) (table.flatMap Rule.nonterminals)

/--
The grammar of the expanded rules, unless a selected name is never mentioned or a
rule behind the root is not productive.
-/
def accept? (selected : List String) (expanded : List Rule) : Option Grammar :=
  let grammar : Grammar := { rules := expanded }
  let reached := Reachability.extend grammar.alternatives []
  if (Reachability.unreached selected reached).isEmpty && grammar.isProductive then
    some grammar
  else
    none

end Expansion

namespace Generator

variable {σ : Type} [RandomSource σ]

/-- Draws a grammar in which every selected name has a use. -/
def grammar (generator : Generator) : Draw σ (Option Grammar) := do
  let expanded ← Expansion.fromRoot
    (generator.rule generator.config.rootName true)
    (fun name => generator.rule name false)
    generator.nonterminals
  return Expansion.accept? generator.nonterminals expanded

end Generator

namespace Config

variable {σ : Type} [RandomSource σ]

/-- The texts of single characters. -/
def letters (alphabet : List Char) : List String :=
  alphabet.map fun letter => String.ofList [letter]

/-- Selects the names and the terminals for a grammar of a given size. -/
def selectAlphabet (config : Config) (size : Int) : Draw σ (List String × List String) := do
  if size < 2 then
    throw (.sizeTooSmall size)
  else if config.maxSize < size then
    throw (.alphabetTooSmall size)
  else
    let nonterminals ← Draw.sample (letters config.nonterminalAlphabet) (size.toNat - 1)
    let terminals ← Draw.sample (letters config.terminalAlphabet) size.toNat
    return (nonterminals, terminals)

/-- Turns the want of a fresh alternative into a grammar given up. -/
def giveUpWhenExhausted {α : Type} (draw : Draw σ (Option α)) : Draw σ (Option α) :=
  tryCatch draw fun error =>
    match error with
    | .exhausted _ _ => return none
    | other => throw other

/-- Draws a grammar of a given size, or gives it up. -/
def generate (config : Config) (size : Int) : Draw σ (Option Grammar) := do
  let (nonterminals, terminals) ← config.selectAlphabet size
  let generator : Generator := { config, nonterminals, terminals }
  giveUpWhenExhausted generator.grammar

end Config

end GrammarCorpus
