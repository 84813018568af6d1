import GrammarCorpus.Oracle.Launch
import GrammarCorpus.Oracle.Verdict
import GrammarCorpus.Rendering
import GrammarCorpus.Text.Quoted

namespace GrammarCorpus

/-!
# Oracles

An oracle is an engine together with the dialect it reads: it renders a grammar
into files, says how the engine is called on them, and judges what it prints. The
engine is known only by its command.

An oracle without a dialect has a command and places for files, but can neither
render nor judge.
-/

/-- The dialects, with what their engines need besides a command. -/
inductive Dialect where
  | bison
  | hyacc (limit : Argument Seconds)
  | grmtools
deriving DecidableEq, Repr

/-- An engine and its dialect. -/
structure Oracle where
  dialect : Option Dialect
  command : Argument String
deriving DecidableEq, Repr

/-- Why an oracle has no rendering of a grammar. -/
inductive RenderError where
  | noDialect
  | noRoot
deriving DecidableEq, Repr

namespace RenderError

/-- The wording of the two failures; the want of a dialect goes without words. -/
def message : RenderError → String
  | noDialect => ""
  | noRoot => "tuple index out of range"

end RenderError

namespace Oracle

/--
The command of an engine that is started from another directory: with a slash in
it, the command is anchored at the directory where it was given.
-/
def anchored (directory : Path) (command : String) : String :=
  if command.toList.contains '/' then
    (directory.child command).collapse.text
  else
    command

/-- The oracle that runs bison. -/
def bison (command : Argument String) : Oracle :=
  { dialect := some .bison, command }

/-- The oracle that runs hyacc, whose command was given in a directory. -/
def hyacc (directory : Path) (command : Argument String) (limit : Argument Seconds) :
    Oracle :=
  { dialect := some (.hyacc limit), command := command.map (anchored directory) }

/-- The oracle that runs nimbleparse. -/
def grmtools (command : Argument String) : Oracle :=
  { dialect := some .grmtools, command }

/-- The short name of an oracle, which is part of its file names. -/
def name (oracle : Oracle) : String :=
  match oracle.dialect with
  | none => "oracle"
  | some .bison => "bison"
  | some (.hyacc _) => "hyacc"
  | some .grmtools => "lrpar"

/-- The written form: the kind of the oracle and its command. -/
def text (oracle : Oracle) : String :=
  let kind :=
    match oracle.dialect with
    | none => ""
    | some .bison => "Bison"
    | some (.hyacc _) => "Hyacc"
    | some .grmtools => "Grmtools"
  kind ++ "Oracle(" ++ oracle.command.quoted ++ ")"

/-- The limit in time, if the engine has one. -/
def limit? (oracle : Oracle) : Option (Argument Seconds) :=
  match oracle.dialect with
  | some (.hyacc limit) => some limit
  | _ => none

/-- The rendering that the engine reads. -/
def render (oracle : Oracle) (grammar : Grammar) : Except RenderError String :=
  let rendered (text : Option String) : Except RenderError String :=
    match text with
    | some text => .ok text
    | none => .error .noRoot
  match oracle.dialect with
  | none => .error .noDialect
  | some .bison => rendered grammar.bison?
  | some (.hyacc _) => rendered grammar.canonical?
  | some .grmtools => rendered grammar.grmtools?

/-- The file for a grammar, in a directory and under a stem. -/
def grammarPath (oracle : Oracle) (directory : Path) (stem : String) : Path :=
  directory.child (stem ++ "." ++ oracle.name ++ ".y")

/--
The files that go with the file of a grammar. Nimbleparse wants a lexer and an
input beside it, and the input is empty.
-/
def companions (oracle : Oracle) (grammar : Grammar) (path : Path) : List (Path × String) :=
  match oracle.dialect with
  | some .grmtools => [(path.withSuffix ".l", grammar.lexer), (path.withSuffix ".in", "")]
  | _ => []

/-- How the engine is called on the file of a grammar. -/
def launch (oracle : Oracle) (path : Path) : Launch :=
  match oracle.dialect with
  | some (.hyacc limit) =>
      -- Hyacc writes into the directory it runs in.
      { command := oracle.command
        words := [path.name, "-K", "-c"]
        directory := some path.parent.text
        limit := some limit }
  | some .grmtools =>
      { command := oracle.command
        words := ["-y", "grmtools", (path.withSuffix ".l").text, path.text,
          (path.withSuffix ".in").text]
        directory := none
        limit := none }
  | _ =>
      { command := oracle.command
        words := [path.text, "-o", (path.withSuffix ".c").text]
        directory := none
        limit := none }

end Oracle

namespace Dialect

/-- Judges what an engine of the dialect has printed. -/
def verdict (dialect : Dialect) (printout : Printout) : Verdict :=
  match dialect with
  | bison => Bison.verdict printout
  | hyacc _ => Hyacc.verdict printout
  | grmtools => Grmtools.verdict printout

end Dialect

namespace Settings

/-- The oracle of each role; commands were given in a directory. -/
def oracles (settings : Settings) (directory : Path) : PerRole Oracle where
  strict := .bison settings.bisonCommand
  relaxed := .hyacc directory settings.hyaccCommand settings.hyaccLimit
  reference := .grmtools settings.grmtoolsCommand

end Settings

end GrammarCorpus
