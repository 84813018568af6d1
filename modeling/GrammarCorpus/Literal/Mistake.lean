import GrammarCorpus.Text.Quoted

namespace GrammarCorpus

/-!
# Mistakes in literals

A literal is an expression that writes a value: a number, a text, or a collection of
values. What is wrong with a text that should be a literal is told by a cause; each
cause has one wording.
-/

namespace Literal

/-- The ways to write a number. -/
inductive NumberStyle where
  | decimal
  | imaginary
  | hexadecimal
  | octal
  | binary
deriving DecidableEq, Repr

namespace NumberStyle

/-- What numbers of a style are called. -/
def text : NumberStyle → String
  | decimal => "decimal"
  | imaginary => "imaginary"
  | hexadecimal => "hexadecimal"
  | octal => "octal"
  | binary => "binary"

end NumberStyle

/-- What can be wrong with a text that should be a literal. -/
inductive Mistake where
  | invalid
  | nullCharacter
  /-- No characters make a lexeme, or those of a lexeme do not belong together. -/
  | badNumber (style : NumberStyle)
  | badDigit (digit : Char) (style : NumberStyle)
  | leadingZeros
  | unterminatedText (manyLines : Bool) (line : Nat)
  | badCharacter (character : Char)
  | unprintable (character : Char)
  | brokenContinuation
  | endInContinuation
  | unexpectedIndent
  | unmatchedDedent
  | mixedTabs
  | neverClosed (bracket : Char)
  | unmatched (bracket : Char)
  /-- The line of the opening bracket is named if it is another one. -/
  | mismatched (closing opening : Char) (line : Option Nat)
  /-- An escape, from one position of the text to another. -/
  | badEscape (first last : Nat) (reason : String)
  | badByteEscape (position : Nat)
  | bytesNotAscii
  | mixedBytes
  /-- Parts of an expression that stand in the wrong place. -/
  | missingComma
  | missingElse
  | missingCall (name : String)
  | equalsForName
  | cannotAssign (target : String)
  | cannotAssignHere (target : String)
  | cannotAssignInline (target : String)
  | assignmentInArgument
  | starredHere
  | doubleStarredHere
  | bareStar
  | starredInComprehension
  | spreadInComprehension
  | comprehensionTarget
  | generatorArgument
  | positionalAfterSpread
  | positionalAfterKeyword
  | starredAfterSpread
  | missingColon
  | missingEntryValue
  | starredEntryValue
  /-- The parameters of a function. -/
  | parameterWithoutDefault
  | parametersInBrackets
  | nothingBeforeSlash
  | secondSlash
  | slashAfterStar
  | commaBetweenSlashAndStar
  | nothingAfterStar
  | starredDefault
  | secondStar
  | doubleStarredDefault
  | parameterAfterDoubleStar
  | missingDefault
  /-- A mistake in an insertion into a text. -/
  | inserted (mistake : Mistake)
  | nestedTooDeep
  | backslashInInsertion
  | commentInInsertion
  | unterminatedInsertion
  | emptyInsertion (next : Option Char)
  | badConversion
  | unclosedInsertion
  | singleClosingBrace
deriving DecidableEq, Repr

namespace Mistake

/-- What is put in front of mistakes in insertions. -/
def insertionMark : String :=
  "f-string: "

/-- Some characters as a text. -/
def only (character : Char) : String :=
  String.ofList [character]

/-- The code point of a character in at least four hexadecimal digits. -/
def codePoint (character : Char) : String :=
  String.ofList ((Text.hexadecimal 4 character.toNat).toList.map Char.toUpper)

/-- The wording of a mistake. -/
def message : Mistake → String
  | invalid => "invalid syntax"
  | nullCharacter => "source code string cannot contain null bytes"
  | badNumber style => s!"invalid {style.text} literal"
  | badDigit digit style => s!"invalid digit '{only digit}' in {style.text} literal"
  | leadingZeros =>
      "leading zeros in decimal integer literals are not permitted; " ++
        "use an 0o prefix for octal integers"
  | unterminatedText manyLines line =>
      let kind := if manyLines then "triple-quoted string" else "string"
      s!"unterminated {kind} literal (detected at line {line})"
  | badCharacter character =>
      s!"invalid character '{only character}' (U+{codePoint character})"
  | unprintable character => s!"invalid non-printable character U+{codePoint character}"
  | brokenContinuation => "unexpected character after line continuation character"
  | endInContinuation => "unexpected EOF while parsing"
  | unexpectedIndent => "unexpected indent"
  | unmatchedDedent => "unindent does not match any outer indentation level"
  | mixedTabs => "inconsistent use of tabs and spaces in indentation"
  | neverClosed bracket => s!"'{only bracket}' was never closed"
  | unmatched bracket => s!"unmatched '{only bracket}'"
  | mismatched closing opening line =>
      s!"closing parenthesis '{only closing}' does not match opening parenthesis " ++
        s!"'{only opening}'" ++ ((line.map fun line => s!" on line {line}").getD "")
  | badEscape first last reason =>
      let place :=
        if first = last then s!"byte 0x5c in position {first}"
        else s!"bytes in position {first}-{last}"
      s!"(unicode error) 'unicodeescape' codec can't decode {place}: {reason}"
  | badByteEscape position => s!"(value error) invalid \\x escape at position {position}"
  | bytesNotAscii => "bytes can only contain ASCII literal characters"
  | mixedBytes => "cannot mix bytes and nonbytes literals"
  | missingComma => "invalid syntax. Perhaps you forgot a comma?"
  | missingElse => "expected 'else' after 'if' expression"
  | missingCall name => s!"Missing parentheses in call to '{name}'. Did you mean {name}(...)?"
  | equalsForName => "invalid syntax. Maybe you meant '==' or ':=' instead of '='?"
  | cannotAssign target => s!"cannot assign to {target}"
  | cannotAssignHere target =>
      s!"cannot assign to {target} here. Maybe you meant '==' instead of '='?"
  | cannotAssignInline target => s!"cannot use assignment expressions with {target}"
  | assignmentInArgument =>
      "expression cannot contain assignment, perhaps you meant \"==\"?"
  | starredHere => "cannot use starred expression here"
  | doubleStarredHere => "cannot use double starred expression here"
  | bareStar => "Invalid star expression"
  | starredInComprehension => "iterable unpacking cannot be used in comprehension"
  | spreadInComprehension => "dict unpacking cannot be used in dict comprehension"
  | comprehensionTarget => "did you forget parentheses around the comprehension target?"
  | generatorArgument => "Generator expression must be parenthesized"
  | positionalAfterSpread => "positional argument follows keyword argument unpacking"
  | positionalAfterKeyword => "positional argument follows keyword argument"
  | starredAfterSpread =>
      "iterable argument unpacking follows keyword argument unpacking"
  | missingColon => "':' expected after dictionary key"
  | missingEntryValue => "expression expected after dictionary key and ':'"
  | starredEntryValue => "cannot use a starred expression in a dictionary value"
  | parameterWithoutDefault => "non-default argument follows default argument"
  | parametersInBrackets => "Lambda expression parameters cannot be parenthesized"
  | nothingBeforeSlash => "at least one argument must precede /"
  | secondSlash => "/ may appear only once"
  | slashAfterStar => "/ must be ahead of *"
  | commaBetweenSlashAndStar => "expected comma between / and *"
  | nothingAfterStar => "named arguments must follow bare *"
  | starredDefault => "var-positional argument cannot have default value"
  | secondStar => "* argument may appear only once"
  | doubleStarredDefault => "var-keyword argument cannot have default value"
  | parameterAfterDoubleStar => "arguments cannot follow var-keyword argument"
  | missingDefault => "expected default value expression"
  | inserted mistake => insertionMark ++ mistake.message
  | nestedTooDeep => "expressions nested too deeply"
  | backslashInInsertion => "f-string expression part cannot include a backslash"
  | commentInInsertion => "f-string expression part cannot include '#'"
  | unterminatedInsertion => "unterminated string"
  | emptyInsertion none => "empty expression not allowed"
  | emptyInsertion (some next) => s!"expression required before '{only next}'"
  | badConversion => "invalid conversion character: expected 's', 'r', or 'a'"
  | unclosedInsertion => "expecting '\x7d'"
  | singleClosingBrace => "single '\x7d' is not allowed"

end Mistake

end Literal

end GrammarCorpus
