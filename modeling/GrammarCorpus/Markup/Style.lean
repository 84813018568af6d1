import GrammarCorpus.Markup.Colour

namespace GrammarCorpus

/-!
# Styles

A style is a set of effects that are switched on or off, together with up to two
colours and a link. The same style can be written in several ways; the normal form of
its text is the same for all of them. A text that describes no style is its own normal
form, apart from the case of its letters and the blanks around it.
-/

namespace Markup

/-- An effect on shown text. -/
inductive Effect where
  | bold
  | dim
  | italic
  | underline
  | blink
  | fastBlink
  | reverse
  | conceal
  | strike
  | doubleUnderline
  | frame
  | encircle
  | overline
deriving DecidableEq, Repr

namespace Effect

/-- The names of an effect; the first is the one that normal forms have. -/
def names : Effect → List String
  | bold => ["bold", "b"]
  | dim => ["dim", "d"]
  | italic => ["italic", "i"]
  | underline => ["underline", "u"]
  | blink => ["blink"]
  | fastBlink => ["blink2"]
  | reverse => ["reverse", "r"]
  | conceal => ["conceal", "c"]
  | strike => ["strike", "s"]
  | doubleUnderline => ["underline2", "uu"]
  | frame => ["frame"]
  | encircle => ["encircle"]
  | overline => ["overline", "o"]

/-- All effects, in the order of normal forms. -/
def all : List Effect :=
  [bold, dim, italic, underline, blink, fastBlink, reverse, conceal, strike, doubleUnderline,
    frame, encircle, overline]

/-- The effect with a name. -/
def ofName? (name : String) : Option Effect :=
  all.find? fun effect => effect.names.contains name

/-- Where an effect is switched on or off, in words. -/
def text (effect : Effect) (on : Bool) : String :=
  let name := effect.names.headD ""
  if on then name else "not " ++ name

end Effect

/-- A style, with the settings of its effects, the latest first. -/
structure Style where
  settings : List (Effect × Bool) := []
  colour : Option String := none
  background : Option String := none
  link : Option String := none
deriving DecidableEq, Repr

namespace Style

/-- The words of a text. -/
def words (text : List Char) : List (List Char) :=
  (text.splitBy fun left right => Text.isBlank left = Text.isBlank right).filter fun part =>
    !part.any Text.isBlank

/-- Reads further words of a style. There is no style if one of them cannot be read. -/
def readWords : List (List Char) → Style → Except MarkupError (Option Style)
  | [], style => .ok (some style)
  | word :: rest, style =>
      let lowered := Text.lowerCase word
      match String.ofList lowered, rest with
      | "on", colour :: rest => do
          let name := Text.lowerCase colour
          if ← isColour name then
            readWords rest { style with background := some (String.ofList name) }
          else
            return none
      | "not", name :: rest =>
          match Effect.ofName? (String.ofList name) with
          | some effect =>
              readWords rest { style with settings := (effect, false) :: style.settings }
          | none => .ok none
      | "link", link :: rest => readWords rest { style with link := some (String.ofList link) }
      | name, rest =>
          match Effect.ofName? name with
          | some effect =>
              readWords rest { style with settings := (effect, true) :: style.settings }
          | none => do
              if ← isColour lowered then
                readWords rest { style with colour := some name }
              else
                return none

/-- The text of a style in its normal form. -/
def text (style : Style) : String :=
  let effects := Effect.all.filterMap fun effect =>
    (style.settings.lookup effect).map effect.text
  let parts := effects ++ style.colour.toList ++
    style.background.toList.map ("on " ++ ·) ++ style.link.toList.map ("link " ++ ·)
  if parts.isEmpty then "none" else " ".intercalate parts

end Style

/-- A text without the blanks at both of its ends. -/
def trim (text : List Char) : List Char :=
  (Text.trimLeft (Text.trimLeft text).reverse).reverse

/-- The normal form of the text of a style. -/
def normalForm (text : List Char) : Except MarkupError String := do
  let trimmed := trim text
  if trimmed = "none".toList || text.isEmpty then
    return "none"
  else
    match ← Style.readWords (Style.words text) {} with
    | some style => return style.text
    | none => return String.ofList (Text.lowerCase trimmed)

example :
    (normalForm "#00FF00  b not i".toList).toOption = some "bold not italic #00ff00" ∧
      (normalForm "Not much".toList).toOption = some "not much" := by
  decide +kernel

end Markup

end GrammarCorpus
