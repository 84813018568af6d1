import GrammarCorpus.Literal.Cutting
import GrammarCorpus.Literal.Pattern
import GrammarCorpus.Text.LetterForm
import Std.Data.HashMap

namespace GrammarCorpus

/-!
# Reading expressions

A phrase is read from the lexemes at a position by its pattern. The first choice that
fits counts, so what is found at a position need not be looked for again; a pattern
that is remembered is read there once, whether or not anything is complained about.

A text is read twice. The first reading complains about nothing that may still turn out
to be right. If it fails, the second one complains about wrong phrases; if nothing is
found that way either, the text is simply wrong. A fault of the lexemes ends a reading
that comes to it. Behind the place where a reading has ended, faults count as well: a
grave one always, and an open bracket if its line has been passed. But a complaint
stands if the end of the text has been met already.

The readers take an amount of fuel that bounds how deep they go. Every part of a pattern
costs a unit, and the amount given suffices for all phrases that the lexemes can hold.
-/

namespace Literal

/-- What is read: the lexemes, what quotations amount to, and how mistakes are marked. -/
structure Source where
  lexemes : Array Lexeme
  fault : Option Fault
  /-- Whether the end of the text is met already with the last lexeme. -/
  meetsEnd : Bool
  quote : List Lexeme → Except (Mistake ⊕ Mistake) Tree
  mark : Mistake → Mistake

/-- What has been cut from a text as a source. -/
def Source.ofCutting (cutting : Cutting)
    (quote : List Lexeme → Except (Mistake ⊕ Mistake) Tree) (mark : Mistake → Mistake) :
    Source where
  lexemes := cutting.lexemes.toArray
  fault := cutting.fault
  meetsEnd := cutting.meetsEnd
  quote
  mark

/-- A phrase that has been found at a position: its tree and the position behind it. -/
abbrev Finding :=
  Option (Tree × Nat)

/-- How far a reading has come. -/
structure Progress where
  /-- The number of lexemes that have been looked at. -/
  reached : Nat
  complaining : Bool
  findings : Std.HashMap (Phrase × Nat) Finding

/-- Why a reading ends early. -/
inductive Stop where
  | fault (fault : Fault)
  | complaint (mistake : Mistake)

/-- A reading, which can stop and keeps its progress. -/
abbrev Reading :=
  EStateM Stop Progress

/-- How a row of parts fits. -/
inductive Fit where
  | passed (trees : List Tree) (position : Nat)
  /-- Whether other choices are left out, too. -/
  | failed (isFinal : Bool)

namespace Reading

/-- The lexeme at a position. -/
def lexemeAt (source : Source) (position : Nat) : Reading Lexeme := do
  match source.lexemes[position]? with
  | some lexeme =>
      modify fun progress => { progress with reached := max progress.reached (position + 1) }
      return lexeme
  | none =>
      match source.fault with
      | some fault => throw (.fault fault)
      | none => return (Place.first 0).lexeme .stop []

/-- The tree of a lexeme. -/
def treeOf (lexeme : Lexeme) : Tree :=
  match lexeme.kind with
  | .name => .name (lexeme.text.map Text.plainLetter)
  | .number =>
      .number ((lexeme.text.toList.getLast?).any fun last => last = 'j' || last = 'J')
  | _ => .other

/-- The names that have a meaning in other places. -/
def softWords : List String :=
  ["_", "case", "match"]

/-- Whether a lexeme is such a name, as far as it goes. -/
def isSoftWord (lexeme : Lexeme) : Bool :=
  lexeme.kind = .name &&
    softWords.any fun word => lexeme.text.toList.isPrefixOf word.toList

/-- Reads a lexeme that passes a test. -/
def one (source : Source) (test : Lexeme → Bool) (position : Nat) :
    Reading (Option (List Tree × Nat)) := do
  let lexeme ← lexemeAt source position
  return if test lexeme then some ([treeOf lexeme], position + 1) else none

/-- The quotations next to each other from a position on. -/
def quotationsFrom (source : Source) : Nat → Nat → Reading (List Lexeme)
  | 0, _ => return []
  | fuel + 1, position => do
      let lexeme ← lexemeAt source position
      if lexeme.kind = .quotation then
        return lexeme :: (← quotationsFrom source fuel (position + 1))
      else
        return []

/-- Reads quotations next to each other. -/
def quotationsAt (source : Source) (fuel position : Nat) :
    Reading (Option (List Tree × Nat)) := do
  let quotations ← quotationsFrom source fuel position
  if quotations = [] then
    return none
  else
    match source.quote quotations with
    | .ok tree => return some ([tree], position + quotations.length)
    | .error (.inl own) => throw (.complaint (source.mark own))
    | .error (.inr inner) => throw (.complaint inner)

/-- How many brackets are open behind the lexeme before a position. -/
def depthBefore (source : Source) (position : Nat) : Nat :=
  (source.lexemes[position - 1]?.map Lexeme.depth).getD 0

/-- The finding at a position, if it is remembered. -/
def remembered (phrase : Phrase) (position : Nat) : Reading (Option Finding) := do
  return (← get).findings[(phrase, position)]?

/-- Remembers a finding at a position. -/
def remember (phrase : Phrase) (position : Nat) (finding : Finding) : Reading Unit :=
  modify fun progress =>
    { progress with findings := progress.findings.insert (phrase, position) finding }

/-- Sets whether wrong phrases are complained about. -/
def setComplaining (complaining : Bool) : Reading Unit :=
  modify fun progress => { progress with complaining }

mutual

/-- Reads a phrase at a position. -/
def phraseAt (source : Source) : Nat → Phrase → Nat → Reading Finding
  | 0, _, _ => return none
  | fuel + 1, phrase, position => do
      let _ ← lexemeAt source position
      let pattern := phrase.pattern
      if pattern.isRemembered then
        if let some finding ← remembered phrase position then
          return finding
      let complaining := (← get).complaining
      if pattern.isQuiet then
        setComplaining false
      let finding ← do
        match ← choiceAt source fuel [] pattern.choices position with
        | none => pure none
        | some (tree, next) => stepsAt source fuel pattern.steps tree next
      setComplaining complaining
      if pattern.isRemembered then
        remember phrase position finding
      return finding

/-- Makes a phrase longer by steps as long as one fits. -/
def stepsAt (source : Source) : Nat → List Choice → Tree → Nat → Reading Finding
  | 0, _, tree, position => return some (tree, position)
  | fuel + 1, steps, tree, position => do
      if steps.isEmpty then
        return some (tree, position)
      else
        match ← choiceAt source fuel [tree] steps position with
        | none => return some (tree, position)
        | some (longer, next) => stepsAt source fuel steps longer next

/-- Reads the first choice that fits, behind some trees. -/
def choiceAt (source : Source) : Nat → List Tree → List Choice → Nat → Reading Finding
  | 0, _, _, _ => return none
  | _, _, [], _ => return none
  | fuel + 1, before, choice :: others, position => do
      if choice.complains && !(← get).complaining then
        choiceAt source fuel before others position
      else
        match ← partsAt source fuel false choice.parts position with
        | .failed isFinal =>
            if isFinal then return none
            else choiceAt source fuel before others position
        | .passed trees next =>
            match choice.outcome (depthBefore source next) (before ++ trees) with
            | .give tree => return some (tree, next)
            | .complain mistake => throw (.complaint (source.mark mistake))
            | .refuse => return none

/-- Reads parts one after the other. -/
def partsAt (source : Source) : Nat → Bool → List Part → Nat → Reading Fit
  | 0, isFinal, _, _ => return .failed isFinal
  | _, _, [], position => return .passed [] position
  | fuel + 1, _, .commit :: parts, position => partsAt source fuel true parts position
  | fuel + 1, isFinal, part :: parts, position => do
      match ← partAt source fuel part position with
      | none => return .failed isFinal
      | some (trees, next) =>
          match ← partsAt source fuel isFinal parts next with
          | .passed others last => return .passed (trees ++ others) last
          | .failed isFinal => return .failed isFinal

/-- Reads parts as a part of their own. -/
def rowAt (source : Source) : Nat → List Part → Nat → Reading (Option (List Tree × Nat))
  | 0, _, _ => return none
  | fuel + 1, parts, position => do
      match ← partsAt source fuel false parts position with
      | .passed trees next => return some (trees, next)
      | .failed _ => return none

/-- Reads parts as often as they fit, behind some trees. -/
def rowsAt (source : Source) :
    Nat → List Part → List Tree → Nat → Reading (List Tree × Nat)
  | 0, _, trees, position => return (trees, position)
  | fuel + 1, parts, trees, position => do
      match ← rowAt source fuel parts position with
      | none => return (trees, position)
      | some (further, next) => rowsAt source fuel parts (trees ++ further) next

/-- Reads the first of several rows that fits. -/
def eitherAt (source : Source) :
    Nat → List (List Part) → Nat → Reading (Option (List Tree × Nat))
  | 0, _, _ => return none
  | _, [], _ => return none
  | fuel + 1, parts :: others, position => do
      match ← rowAt source fuel parts position with
      | some found => return some found
      | none => eitherAt source fuel others position

/-- Reads a part at a position. -/
def partAt (source : Source) : Nat → Part → Nat → Reading (Option (List Tree × Nat))
  | 0, _, _ => return none
  | fuel + 1, part, position => do
      match part with
      | .sign text =>
          let lexeme ← lexemeAt source position
          return if lexeme.kind = .sign && lexeme.text = text then some ([], position + 1)
            else none
      | .lexeme kind => one source (·.kind = kind) position
      | .softWord => one source isSoftWord position
      | .quotations => quotationsAt source fuel position
      | .phrase phrase =>
          return (← phraseAt source fuel phrase position).map fun (tree, next) => ([tree], next)
      | .either options => eitherAt source fuel options position
      | .optional parts =>
          return some ((← rowAt source fuel parts position).getD ([], position))
      | .many parts => return some (← rowsAt source fuel parts [] position)
      | .atLeastOne parts =>
          match ← rowAt source fuel parts position with
          | none => return none
          | some (trees, next) => return some (← rowsAt source fuel parts trees next)
      | .separated parts =>
          match ← rowAt source fuel parts position with
          | none => return none
          | some (trees, next) =>
              return some (← rowsAt source fuel (.sign "," :: parts) trees next)
      | .ahead parts => return (← rowAt source fuel parts position).map fun _ => ([], position)
      | .notAhead parts =>
          return if (← rowAt source fuel parts position).isSome then none
            else some ([], position)
      | .commit => return some ([], position)

end

end Reading

namespace Source

/-- The fuel that suffices to read a text. -/
def fuel (source : Source) : Nat :=
  1000 * (source.lexemes.size + 2)

/-- What a reading of a phrase has found at the beginning, and the progress it has made. -/
def readOnce (source : Source) (phrase : Phrase) (complaining : Bool) (reached : Nat) :
    Except Stop Finding × Nat :=
  match (Reading.phraseAt source source.fuel phrase 0).run
      { reached, complaining, findings := ∅ } with
  | .ok finding progress => (.ok finding, progress.reached)
  | .error stop progress => (.error stop, progress.reached)

/-- The lexeme that has been looked at last. -/
def last? (source : Source) (reached : Nat) : Option Lexeme :=
  source.lexemes[reached - 1]?

/-- The mistake that is told about a text where one has been found. -/
def settle (source : Source) (reached : Nat) (mistake : Mistake) : Mistake :=
  match source.fault with
  | none => mistake
  | some fault =>
      if fault.isGrave then
        fault.mistake
      else
        match fault.bracket, source.last? reached with
        | some (bracket, line), some lexeme =>
            if line < lexeme.line then source.mark (.neverClosed bracket) else mistake
        | _, _ => mistake

/-- The mistake that is told where a reading has stopped. -/
def mistakeAt (source : Source) (reached : Nat) : Stop → Mistake
  | .fault fault => fault.mistake
  | .complaint mistake =>
      if source.meetsEnd && source.lexemes.size ≤ reached then mistake
      else source.settle reached mistake

/-- The tree of a text that is a phrase, or the mistake in it. -/
def read (source : Source) (phrase : Phrase) : Except Mistake Tree :=
  match source.readOnce phrase false 0 with
  | (.ok (some (tree, _)), _) => .ok tree
  | (.error stop, reached) => .error (source.mistakeAt reached stop)
  | (.ok none, reached) =>
      match source.readOnce phrase true reached with
      | (.error stop, reached) => .error (source.mistakeAt reached stop)
      | (.ok _, reachedAgain) =>
          if ((source.last? reached).map Lexeme.kind) = some .indent then
            .error (source.mark .unexpectedIndent)
          else
            .error (source.settle reachedAgain (source.mark .invalid))

end Source

end Literal

end GrammarCorpus
