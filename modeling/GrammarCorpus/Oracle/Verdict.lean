import GrammarCorpus.Config
import GrammarCorpus.Text.Scan

namespace GrammarCorpus

/-!
# Verdicts of the engines

Three parser generators are asked about a grammar, and what they print decides.
Certain pieces of text, the markers, tell a grammar that was refused from one that
was taken; where they stand in a line does not matter.

- Bison builds canonical LR(1) tables and complains about conflicts and useless
  rules on its error stream.
- Hyacc searches for a number of lookahead tokens that suffices, and names it. It
  may search for ever, so it has a limit in time.
- Nimbleparse builds LR(1) tables of its own and reads an empty input, which most
  grammars rightly do not accept.
-/

/-- What an engine is asked for. -/
inductive Role where
  /-- Canonical LR(1). -/
  | strict
  /-- LR(k) for some k. -/
  | relaxed
  /-- LR(1), by another implementation. -/
  | reference
deriving DecidableEq, Repr

namespace Role

/-- The name of a role. -/
def text : Role → String
  | strict => "strict"
  | relaxed => "relaxed"
  | reference => "reference"

/-- All roles, in the order of asking. -/
def all : List Role :=
  [strict, relaxed, reference]

end Role

/-- Something for every role. -/
structure PerRole (α : Type) where
  strict : α
  relaxed : α
  reference : α
deriving DecidableEq, Repr

namespace PerRole

/-- What belongs to a role. -/
def get {α : Type} (items : PerRole α) : Role → α
  | .strict => items.strict
  | .relaxed => items.relaxed
  | .reference => items.reference

/-- Computes what belongs to each role, in the order of asking. -/
def build {m : Type → Type} [Monad m] {α : Type} (make : Role → m α) : m (PerRole α) := do
  let strict ← make .strict
  let relaxed ← make .relaxed
  let reference ← make .reference
  return { strict, relaxed, reference }

end PerRole

/-- The answer about one grammar. -/
structure Verdict where
  accepted : Bool
  diagnostic : String
deriving DecidableEq, Repr

/-- What an engine that came to its end has left: its exit code and its two streams. -/
structure Printout where
  code : Int
  out : String
  err : String
deriving DecidableEq, Repr

/-- Whether a marker stands somewhere in a text. -/
def mentions (marker : String) (text : List Char) : Bool :=
  Text.occurs marker.toList text

/-- The lines of a list, with line feeds between them. -/
def joinLines (lines : List (List Char)) : String :=
  "\n".intercalate (lines.map String.ofList)

namespace Bison

/-- What bison writes about conflicts and useless symbols. -/
def markers : List String :=
  ["shift/reduce", "reduce/reduce", "nonterminals useless", "rules useless"]

/-- Bison accepts by exiting with zero and complaining about nothing. -/
def verdict (printout : Printout) : Verdict :=
  let report := "err: " ++ printout.err ++ "\n"
  if printout.code ≠ 0 then
    ⟨false, s!"exit code: {printout.code}\n" ++ report⟩
  else if markers.any fun marker => mentions marker printout.err.toList then
    ⟨false, report⟩
  else
    ⟨true, report⟩

end Bison

namespace Hyacc

/-- What hyacc writes in its first line when it gives up. -/
def fatalMarker : String :=
  "laneHeadList is NULL"

/-- What hyacc writes for every number of lookahead tokens that it tries. -/
def stepMarker : String :=
  "while loop: k ="

/-- What hyacc writes once some number of lookahead tokens suffices. -/
def foundMarker : String :=
  "Max K in LR(k): "

/-- The lines that tell how far the search went. -/
def stepLines (lines : List (List Char)) : List (List Char) :=
  lines.filter (mentions stepMarker)

/-- Hyacc accepts by naming the number of lookahead tokens, whatever its exit code. -/
def verdict (printout : Printout) : Verdict :=
  let lines := Text.lines printout.out.toList
  let steps := stepLines lines
  let first := lines.headD []
  if mentions fatalMarker first then
    ⟨false, joinLines (first :: steps)⟩
  else
    match lines.reverse.find? (mentions foundMarker) with
    | some found => ⟨true, joinLines (steps ++ [found])⟩
    | none =>
        ⟨false, s!"exit code: {printout.code}\n" ++ joinLines steps ++ "\nerr: " ++
          printout.err⟩

/-- Running into the limit is a refusal; the steps taken until then are kept. -/
def verdictAtLimit (limit : Argument Seconds) (captured : List Char) : Verdict :=
  let steps := stepLines (Text.lines captured)
  let complaint := "timeout: no verdict after " ++ Seconds.shown limit ++ "s"
  ⟨false, joinLines (complaint.toList :: steps)⟩

end Hyacc

namespace Grmtools

/-- What nimbleparse writes about conflicts and unused symbols. -/
def conflictMarkers : List String :=
  ["shift/reduce", "reduce/reduce", "unused"]

/-- What nimbleparse writes about a grammar that it cannot read. -/
def grammarMarkers : List String :=
  ["error:", "error in", "unknown reference"]

/-- What nimbleparse writes when the empty input is no sentence of the language. -/
def inputMarker : String :=
  "parsing error"

/--
A character in lower case, as far as markers can tell. Besides the ASCII letters,
the Kelvin sign has an ASCII letter in lower case, and the dotted capital i an ASCII
letter with a mark behind it. All other characters stay apart from ASCII.
-/
def lowered (character : Char) : List Char :=
  if character = Char.ofNat 0x212a then ['k']
  else if character = Char.ofNat 0x130 then ['i', Char.ofNat 0x307]
  else [character.toLower]

/-- Whether a marker stands somewhere in a text, in any case. -/
def mentionsLowered (marker : String) (text : String) : Bool :=
  mentions marker (text.toList.flatMap lowered)

/--
Nimbleparse accepts by complaining neither about conflicts nor about the grammar,
if its exit code is zero or only the empty input was at fault.
-/
def verdict (printout : Printout) : Verdict :=
  let report := printout.out ++ "\n" ++ printout.err
  if (conflictMarkers ++ grammarMarkers).any (mentionsLowered · report) then
    ⟨false, "err: " ++ report⟩
  else if printout.code ≠ 0 && !mentionsLowered inputMarker report then
    ⟨false, s!"exit code: {printout.code}\nerr: " ++ report⟩
  else
    ⟨true, report⟩

end Grmtools

end GrammarCorpus
