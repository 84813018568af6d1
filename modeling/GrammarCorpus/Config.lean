import GrammarCorpus.Argument
import GrammarCorpus.Binary64.Decimal

namespace GrammarCorpus

/-!
# Configuration

Settings bound the random choices of the generator, name its alphabets, and say
how the parser generators are called. A `Config` is a record of settings whose
three pairs of bounds leave something to choose from; only such records generate.
-/

/-- A limit in seconds, kept as it was given. -/
inductive Seconds where
  | whole (count : Int)
  | real (value : Binary64)
deriving DecidableEq, Repr

namespace Seconds

/-- The written form of a limit. -/
def text : Seconds → String
  | whole count => toString count
  | real value => value.text

/-- A limit as a number of the format. -/
def number : Seconds → Binary64
  | whole count => .nearest (count < 0) count.natAbs 1
  | real value => value

/-- What is seen of an argument that is a limit. -/
def shown (limit : Argument Seconds) : String :=
  (limit.map text).text

end Seconds

/-- Five seconds. -/
def defaultLimit : Seconds :=
  .real (.nearest false 5 1)

/-- All choices left to a user. -/
structure Settings where
  minAlternatives : Int := 1
  maxAlternatives : Int := 3
  minSymbols : Int := 0
  maxSymbols : Int := 5
  rootMinSymbols : Int := 1
  maxRetries : Int := 50
  nonterminalAlphabet : List Char := "ABCDEFGHIJKLMNOPQRSTUVWXYZ".toList
  terminalAlphabet : List Char := "abcdefghijklmnopqrstuvwxyz".toList
  rootName : String := "root"
  seed : Option Int := none
  bisonCommand : Argument String := .of "bison"
  hyaccCommand : Argument String := .of "hyacc"
  grmtoolsCommand : Argument String := .of "nimbleparse"
  hyaccLimit : Argument Seconds := .of defaultLimit
  scratchRoot : Option String := none
deriving DecidableEq, Repr

/-- A pair of bounds that leaves nothing to choose from. -/
inductive BoundsError where
  | alternatives (least greatest : Int)
  | symbols (least greatest : Int)
  | rootSymbols (least greatest : Int)
deriving DecidableEq, Repr

namespace BoundsError

/-- The wording of a complaint about bounds. -/
def message : BoundsError → String
  | alternatives least greatest => s!"bad alternative bounds [{least}, {greatest}]"
  | symbols least greatest => s!"bad symbol bounds [{least}, {greatest}]"
  | rootSymbols least greatest => s!"bad root symbol bounds [{least}, {greatest}]"

end BoundsError

/-- Settings that a generator can work with. -/
structure Config extends Settings where
  oneAlternative : 1 ≤ minAlternatives := by decide
  alternativesOrdered : minAlternatives ≤ maxAlternatives := by decide
  symbolsNonnegative : 0 ≤ minSymbols := by decide
  symbolsOrdered : minSymbols ≤ maxSymbols := by decide
  oneRootSymbol : 1 ≤ rootMinSymbols := by decide
  rootSymbolsOrdered : rootMinSymbols ≤ maxSymbols := by decide

namespace Config

/-- The settings that hold where none are given. -/
def standard : Config :=
  {}

/-- The seed that is used where none is configured. -/
def defaultSeed : Int :=
  42

end Config

instance : Inhabited Config :=
  ⟨Config.standard⟩

namespace Settings

/-- Accepts settings, or names the first pair of bounds that is at fault. -/
def check (settings : Settings) : Except BoundsError Config :=
  if alternatives :
      1 ≤ settings.minAlternatives ∧
        settings.minAlternatives ≤ settings.maxAlternatives then
    if symbols :
        0 ≤ settings.minSymbols ∧ settings.minSymbols ≤ settings.maxSymbols then
      if rootSymbols :
          1 ≤ settings.rootMinSymbols ∧
            settings.rootMinSymbols ≤ settings.maxSymbols then
        .ok {
          toSettings := settings
          oneAlternative := alternatives.1
          alternativesOrdered := alternatives.2
          symbolsNonnegative := symbols.1
          symbolsOrdered := symbols.2
          oneRootSymbol := rootSymbols.1
          rootSymbolsOrdered := rootSymbols.2
        }
      else
        .error (.rootSymbols settings.rootMinSymbols settings.maxSymbols)
    else
      .error (.symbols settings.minSymbols settings.maxSymbols)
  else
    .error (.alternatives settings.minAlternatives settings.maxAlternatives)

/-- The greatest number of rules that the alphabets can name. -/
def maxSize (settings : Settings) : Nat :=
  min (settings.nonterminalAlphabet.length + 1) settings.terminalAlphabet.length

end Settings

end GrammarCorpus
