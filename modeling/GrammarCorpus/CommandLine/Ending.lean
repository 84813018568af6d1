import GrammarCorpus.CommandLine.Options

namespace GrammarCorpus

/-!
# How commands end

A command ends by itself, or with an exit status that it chooses, or with a failure
that it does not handle. What it prints until then is kept in every case.
-/

/-- The end of a command. -/
inductive Ending (ε : Type) where
  | finished
  | exit (status : Nat)
  | failed (failure : ε)
deriving DecidableEq, Repr

/-- The end of a command whose last step has succeeded or failed. -/
def Ending.ofResult {δ ε : Type} (failure : δ → ε) : Except δ Unit → Ending ε
  | .ok () => .finished
  | .error error => .failed (failure error)

/-- What a command prints on its output and error streams, and how it ends. -/
structure Transcript (ε : Type) where
  out : String
  err : String
  ending : Ending ε
deriving DecidableEq, Repr

/-- A command line that a program does not carry out. -/
structure Refused where
  program : String
  refusal : Refusal
deriving DecidableEq, Repr

namespace Refused

/--
What is printed about the command line: help, or a complaint. An argument that is missed
is no matter for a complaint, but a failure.
-/
def transcript {ε : Type} (refused : Refused) (missed : Misuse → ε) : Transcript ε :=
  match refused.refusal with
  | .help => ⟨"usage: " ++ refused.program ++ " [options]\n", "", .exit 0⟩
  | .usage error => ⟨"", refused.program ++ ": error: " ++ error.message ++ "\n", .exit 2⟩
  | .argument misuse => ⟨"", "", .failed (missed misuse)⟩

end Refused

/-- Names the program that refuses a command line. -/
def refusedBy {α : Type} (program : String) (result : Except Refusal α) : Except Refused α :=
  result.mapError fun refusal => { program, refusal }

end GrammarCorpus
