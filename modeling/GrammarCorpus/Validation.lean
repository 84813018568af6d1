import GrammarCorpus.Checks
import GrammarCorpus.Sample

namespace GrammarCorpus

/-!
# Validation of many grammars

Grammars of random sizes are drawn, and every grammar has to pass six checks. The
report has one group for each check and ends with a summary. Where a draw fails, or
a grammar cannot be counted back from its text, the report ends before that group.
-/

/-- Why a validation ends early. -/
inductive ValidationError where
  | generation (error : GenerationError)
  | recount (error : RecountError)
deriving DecidableEq, Repr

namespace ValidationError

/-- The wording of a failure. -/
def message : ValidationError → String
  | generation error => error.message
  | recount error => error.message

end ValidationError

/-- What a validation has written, and whether all checks were passed. -/
structure ValidationReport where
  text : String
  result : Except ValidationError Bool

namespace Validation

/-- A grammar together with the size that was asked for. -/
structure Drawn where
  size : Int
  grammar : Grammar
deriving DecidableEq, Repr

/-- Draws so many times; sizes lie between the bounds. -/
def draw
    {σ : Type}
    [RandomSource σ]
    (config : Config)
    (minSize maxSize : Int) :
    Nat → List Drawn → Draw σ (List Drawn)
  | 0, drawn => return drawn
  | count + 1, drawn => do
      let size ← Draw.between minSize maxSize
      let found ← config.generate size
      draw config minSize maxSize count
        (drawn ++ found.toList.map fun grammar => { size, grammar })

/-- A named property of grammars; it cannot always be decided. -/
structure Check where
  name : String
  holds : Drawn → Except RecountError Bool

/-- The checks, in the order of the report. -/
def checks : List Check :=
  [ { name := "Rule set equals reachable set"
      holds := fun drawn => .ok ((drawn.grammar.reachesItsRules? id).getD false) },
    { name := "Every non-root rule productive"
      holds := fun drawn => .ok drawn.grammar.isProductive },
    { name := "No duplicate alternatives"
      holds := fun drawn => .ok drawn.grammar.hasDistinctAlternatives },
    { name := "No trivial self-alias"
      holds := fun drawn => .ok drawn.grammar.hasNoSelfAlias },
    { name := "Rule count equals size"
      holds := fun drawn => .ok (drawn.grammar.rules.length = drawn.size) },
    { name := "Render/count round-trip"
      holds := fun drawn => (drawn.grammar.keepsShape?).getD (.ok false) } ]

namespace Check

/-- The number of grammars that pass, unless one cannot be decided. -/
def countPassing (check : Check) : List Drawn → Except RecountError Nat
  | [] => .ok 0
  | drawn :: others => do
      let passed ← check.holds drawn
      let count ← check.countPassing others
      return if passed then count + 1 else count

end Check

/-- The group of the report that a check with a given number has. -/
def group (number : Nat) (name : String) (passing total : Nat) : String :=
  s!"\n[{number}] {name}\n" ++
    if passing = total then
      s!"  ✓ PASS: {passing}/{total}\n"
    else
      s!"  ✗ FAIL: only {passing}/{total}\n"

/--
Writes the groups of the checks from a given number on, behind the text so far. The
number of checks that were not passed is counted along.
-/
def groups
    (drawn : List Drawn) :
    Nat → List Check → String → Nat → String × Except RecountError Nat
  | _, [], text, failed => (text, .ok failed)
  | number, check :: others, text, failed =>
      match check.countPassing drawn with
      | .error error => (text, .error error)
      | .ok passing =>
          groups drawn (number + 1) others
            (text ++ group number check.name passing drawn.length)
            (if passing = drawn.length then failed else failed + 1)

/-- The summary behind all groups. -/
def summary (failed : Nat) : String :=
  let passed := checks.length - failed
  "\n" ++ Sample.ruler ++ "\n" ++
    (if failed = 0 then
      s!"ALL TESTS PASSED ({passed}/{checks.length} test groups)\n"
    else
      s!"FAILURES: {failed} test groups failed\n") ++
    Sample.ruler ++ "\n"

/-- The heading of the report. -/
def heading : String :=
  "\n" ++ Sample.ruler ++ "\nRANDOM GRAMMAR VALIDATION SUITE\n" ++ Sample.ruler ++ "\n"

/-- The report on grammars that so many draws have yielded. -/
def report (attempts : Nat) (drawn : List Drawn) : ValidationReport :=
  let start := heading ++ s!"\n[0] Generated {drawn.length}/{attempts} grammars\n"
  if drawn.isEmpty then
    ⟨start ++ "  ✗ FAIL: nothing to validate\n", .ok false⟩
  else
    match groups drawn 1 checks start 0 with
    | (text, .error error) => ⟨text, .error (.recount error)⟩
    | (text, .ok failed) => ⟨text ++ summary failed, .ok (failed = 0)⟩

end Validation

namespace Config

/-- Draws so many times with sizes between two bounds, and checks the grammars. -/
def validation (config : Config) (attempts minSize maxSize : Int) : ValidationReport :=
  let draw : Draw Mersenne (List Validation.Drawn) :=
    Validation.draw config minSize maxSize attempts.toNat []
  match (draw.run (Mersenne.ofSeed (config.seed.getD defaultSeed))).1 with
  | .ok drawn => Validation.report attempts.toNat drawn
  | .error error => ⟨Validation.heading, .error (.generation error)⟩

end Config

end GrammarCorpus
