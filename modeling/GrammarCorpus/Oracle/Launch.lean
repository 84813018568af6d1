import GrammarCorpus.Config
import GrammarCorpus.Files.Path

namespace GrammarCorpus

/-!
# Launches

A launch says how an engine is called. Not every launch can be carried out. An empty list
or a null character in place of a command is noticed before anything is started. A limit
is looked at once the engine runs, when it is turned into the number of milliseconds that
the system is to wait at most; then the engine is stopped, and the launch fails.

A limit below zero is in order: an engine runs into it at once. The words of a launch are
in order too, as they are made of the paths of files that have been written.
-/

/-- How an engine is started. -/
structure Launch where
  command : Argument String
  /-- The words behind the command. -/
  words : List String
  /-- The directory it is started in, if that matters. -/
  directory : Option String
  limit : Option (Argument Seconds)
deriving DecidableEq, Repr

/-- Why a limit is none that can be waited for. -/
inductive LimitFault where
  /-- An integer that the format of limits does not reach. -/
  | tooGreat
  | notANumber
  /-- Infinitely many milliseconds. -/
  | infinite
  /-- More milliseconds than a clock can tell. -/
  | beyondClock
  /-- More milliseconds than the system waits for. -/
  | tooLong
deriving DecidableEq, Repr

namespace LimitFault

/-- All faults of limits, in the order in which they are noticed. -/
def all : List LimitFault :=
  [tooGreat, notANumber, infinite, beyondClock, tooLong]

/-- The wording of a fault. -/
def message : LimitFault → String
  | tooGreat => "int too large to convert to float"
  | notANumber => "cannot convert float NaN to integer"
  | infinite => "cannot convert float infinity to integer"
  | beyondClock => "timestamp too large to convert to C _PyTime_t"
  | tooLong => "timeout is too large"

end LimitFault

namespace Seconds

/-- The most milliseconds that the system waits for. -/
def longestWait : Nat :=
  2147483647

/-- The most milliseconds that a clock can tell, which counts nanoseconds. -/
def clockEnd : Nat :=
  9223372036854

/-- The greatest number of milliseconds that is not rounded to infinity. -/
def greatestFinite : Nat :=
  Nat.pow 2 1024 - Nat.pow 2 970 - 1

/-- Whether a limit is longer than so many milliseconds. -/
def exceeds (limit : Seconds) (milliseconds : Nat) : Bool :=
  limit.number.exceeds milliseconds 1000

/-- Whether a limit is an integer that the format does not reach. -/
def isTooGreat : Seconds → Bool
  | whole count => (whole count).number = .infinite (count < 0)
  | real _ => false

/-- Whether a fault can be found with a limit. -/
def hasFault (limit : Seconds) : LimitFault → Bool
  | .tooGreat => limit.isTooGreat
  | .notANumber => limit.number = .notANumber
  | .infinite => limit.exceeds greatestFinite
  | .beyondClock => limit.exceeds clockEnd
  | .tooLong => limit.exceeds longestWait

end Seconds

/-- Why a launch cannot be carried out. -/
inductive LaunchFault where
  /-- An empty list stands in place of the command. -/
  | noCommand
  /-- The command holds a null character. -/
  | nullInCommand
  /-- An empty list stands in place of the limit. -/
  | noLimit
  | limit (fault : LimitFault)
deriving DecidableEq, Repr

namespace LaunchFault

/-- All faults of launches, in the order in which they are noticed. -/
def all : List LaunchFault :=
  [noCommand, nullInCommand, noLimit] ++ LimitFault.all.map limit

/-- Whether a fault is noticed before anything is started. -/
def isEarly : LaunchFault → Bool
  | noCommand => true
  | nullInCommand => true
  | _ => false

/-- The wording of a fault. -/
def message : LaunchFault → String
  | noCommand => Misuse.path.message
  | nullInCommand => "embedded null byte"
  | noLimit => "unsupported operand type(s) for +: 'float' and 'list'"
  | limit fault => fault.message

end LaunchFault

namespace Launch

/-- Whether a fault can be found with a launch. -/
def hasFault (launch : Launch) : LaunchFault → Bool
  | .noCommand => launch.command = .dropped
  | .nullInCommand => launch.command.any FileWork.holdsNull
  | .noLimit => launch.limit = some .dropped
  | .limit fault => launch.limit.any fun limit => limit.any fun seconds => seconds.hasFault fault

/-- The fault that is noticed first. -/
def fault? (launch : Launch) : Option LaunchFault :=
  LaunchFault.all.find? launch.hasFault

/-- An empty list for a command is noticed before what is wrong with the limit. -/
example :
    fault? ⟨.of "hyacc", [], none, some (.of (.real .notANumber))⟩ =
        some (.limit .notANumber) ∧
      fault? ⟨.dropped, [], none, some (.of (.real .notANumber))⟩ = some .noCommand := by
  decide

end Launch

end GrammarCorpus
