import GrammarCorpus.Text.Quoted

namespace GrammarCorpus

/-!
# Arguments of options

An option is given a value; but option readers of older make drop two dashes that stand
in place of the value, as they drop the two dashes that end all options, and the option is
left with an empty list. That is no mistake by itself: it becomes one as soon as the value
is needed. (Option readers of newer make hand over the two dashes. With these no argument
is ever dropped.)
-/

/-- What an option is given. -/
inductive Argument (α : Type) where
  | of (value : α)
  /-- An empty list stands where a value should be, as older option readers leave it. -/
  | dropped
deriving DecidableEq, Repr

/-- What an empty list was needed for that an older option reader has left for a value. -/
inductive Misuse where
  /-- On the left or on the right of a comparison with an integer. -/
  | comparison (operator : String) (onLeft : Bool)
  /-- As the seed of a stream. -/
  | seed
  /-- As a part of the seed of a trial. -/
  | trialSeed
  /-- As a number of repetitions. -/
  | repetitions
  /-- As the position in front of which items are taken. -/
  | position
  /-- As the path of a directory. -/
  | path
deriving DecidableEq, Repr

namespace Misuse

/-- The wording of a mistake. -/
def message : Misuse → String
  | comparison operator onLeft =>
      let sides := if onLeft then "'list' and 'int'" else "'int' and 'list'"
      s!"'{operator}' not supported between instances of " ++ sides
  | seed =>
      "The only supported seed types are: None,\nint, float, str, bytes, and bytearray."
  | trialSeed => "can only concatenate list (not \"int\") to list"
  | repetitions => "'list' object cannot be interpreted as an integer"
  | position => "slice indices must be integers or None or have an __index__ method"
  | path => "expected str, bytes or os.PathLike object, not list"

end Misuse

namespace Argument

variable {α : Type}

/-- The value of an argument, which is needed for something. -/
def needFor (argument : Argument α) (misuse : Misuse) : Except Misuse α :=
  match argument with
  | of value => .ok value
  | dropped => .error misuse

/-- The text of an empty list. -/
def emptyList : String :=
  "[]"

/-- What is seen of an argument that is a text. -/
def text : Argument String → String
  | of value => value
  | dropped => emptyList

/-- What is seen of an argument where texts are quoted. -/
def quoted : Argument String → String
  | of value => Text.quoted value
  | dropped => emptyList

/-- An argument whose value is changed. -/
def map {β : Type} (change : α → β) : Argument α → Argument β
  | of value => of (change value)
  | dropped => dropped

/-- Whether an argument has a value, and the value passes a test. -/
def any (argument : Argument α) (test : α → Bool) : Bool :=
  match argument with
  | of value => test value
  | dropped => false

/-- The value of an argument, or another one. -/
def getD (argument : Argument α) (other : α) : α :=
  match argument with
  | of value => value
  | dropped => other

end Argument

end GrammarCorpus
