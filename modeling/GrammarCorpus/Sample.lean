import GrammarCorpus.Console
import GrammarCorpus.Generator
import GrammarCorpus.Random.Mersenne
import GrammarCorpus.Rendering

namespace GrammarCorpus

/-!
# Samples

A sample is what some draws in a row yield: the grammars among them, up to a wanted
number, and the number of draws that were made. A hundred draws are allowed for each
wanted grammar. All draws go on with one stream, so a larger sample begins with the
smaller one.
-/

/-- Grammars in the order they were drawn, and the number of draws. -/
structure Sample where
  grammars : List Grammar
  attempts : Nat
deriving DecidableEq, Repr

namespace Sample

/-- No draws yet. -/
def empty : Sample :=
  ⟨[], 0⟩

/-- One more draw, and what it has yielded. -/
def add (sample : Sample) (drawn : Option Grammar) : Sample where
  grammars := sample.grammars ++ drawn.toList
  attempts := sample.attempts + 1

/-- Goes on drawing until enough grammars are there or no attempt is left. -/
def extend
    {σ : Type}
    [RandomSource σ]
    (config : Config)
    (size : Int)
    (wanted : Nat) :
    Nat → Sample → Draw σ Sample
  | 0, sample => return sample
  | attempts + 1, sample => do
      if wanted ≤ sample.grammars.length then
        return sample
      else
        let drawn ← config.generate size
        extend config size wanted attempts (sample.add drawn)

/-- The number of draws allowed for each wanted grammar. -/
def attemptsEach : Nat :=
  100

/-- Draws a sample of so many grammars. -/
def collect
    {σ : Type}
    [RandomSource σ]
    (config : Config)
    (size : Int)
    (wanted : Nat) :
    Draw σ Sample :=
  extend config size wanted (attemptsEach * wanted) empty

/--
The items in front of a position; a negative position is counted from the end.
-/
def upTo {α : Type} (position : Int) (items : List α) : List α :=
  if 0 ≤ position then
    items.take position.toNat
  else
    items.take (items.length - (-position).toNat)

/-- A line that sets a heading apart. -/
def ruler : String :=
  String.ofList (List.replicate 60 '=')

/-- A grammar in full, behind a heading with its number. -/
def showGrammar (number : Nat) (grammar : Grammar) : String :=
  "\n" ++ ruler ++ s!"\nGRAMMAR {number}\n" ++ ruler ++ "\n" ++
    (grammar.canonical?).getD "" ++ "\n"

/-- The shape of a grammar in one line. -/
def showShape (grammar : Grammar) : String :=
  let shape := grammar.shape
  s!"rules={shape.rules} alts={shape.alternatives} syms={shape.symbols}\n"

/-- The number of characters shown of a root rule. -/
def rootWidth : Nat :=
  50

/-- What is shown of the root rule of a grammar; a console may take parts of it for tags. -/
def rootText (grammar : Grammar) : String :=
  String.ofList ((((grammar.root?).map Rule.text).getD "").toList.take rootWidth)

/-- The table row of a grammar. -/
def row (grammar : Grammar) : List String :=
  let shape := grammar.shape
  rootText grammar :: [shape.rules, shape.alternatives, shape.symbols].map toString

/-- The columns of a table of grammars. -/
def columns : List Column :=
  [⟨"Root", false⟩, ⟨"Rules", true⟩, ⟨"Alts", true⟩, ⟨"Syms", true⟩]

/-- The table of all grammars with their shapes. -/
def table (sample : Sample) (size : Int) : Table where
  title := s!"Grammars (size={size}, n={sample.grammars.length}, attempts={sample.attempts})"
  columns := columns
  rows := sample.grammars.map row

/-- The first grammars in full. -/
def firstInFull (sample : Sample) (shown : Int) : String :=
  String.join ((upTo shown sample.grammars).zipIdx.map fun (grammar, number) =>
    showGrammar number grammar)

end Sample

/-- Why a report on a sample is not complete. -/
inductive SampleError where
  | generation (error : GenerationError)
  | console (error : ConsoleError)
deriving DecidableEq, Repr

namespace SampleError

/-- The wording of a failure. -/
def message : SampleError → String
  | generation error => error.message
  | console error => error.message

end SampleError

/-- What a report on a sample has written, and what has kept it from more. -/
structure SampleReport where
  text : String
  result : Except SampleError Unit

namespace Sample

/--
The report on a sample: the first grammars in full, then the shapes of all, as lines
or as a table.
-/
def report (console : Console) (sample : Sample) (size shown : Int) (plain : Bool) :
    SampleReport :=
  if sample.grammars.isEmpty then
    ⟨"No grammars generated\n", .ok ()⟩
  else
    let full := sample.firstInFull shown
    if plain then
      ⟨full ++ String.join (sample.grammars.map showShape), .ok ()⟩
    else
      let report := Report.withTable console full (sample.table size)
      ⟨report.text, report.result.mapError .console⟩

end Sample

namespace Config

/-- Draws a sample on the stream of the configured seed, or of zero if there is none. -/
def sample (config : Config) (size wanted : Int) : Except GenerationError Sample :=
  let draw : Draw Mersenne Sample := Sample.collect config size wanted.toNat
  (draw.run (Mersenne.ofSeed (config.seed.getD 0))).1

/-- Draws a sample and reports on it. -/
def sampleReport
    (config : Config)
    (console : Console)
    (size wanted shown : Int)
    (plain : Bool) :
    SampleReport :=
  match config.sample size wanted with
  | .ok sample => sample.report console size shown plain
  | .error error => ⟨"", .error (.generation error)⟩

end Config

end GrammarCorpus
