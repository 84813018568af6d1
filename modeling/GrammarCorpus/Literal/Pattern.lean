import GrammarCorpus.Literal.Phrase

namespace GrammarCorpus

/-!
# Patterns of expressions

The pattern of each phrase. Patterns with steps describe operations that are done from
left to right.
-/

namespace Literal

open Choice

/-- A name. -/
def aName : Part :=
  .lexeme .name

/-- An item of a list of arguments or of a generator: anything that can be named. -/
def anItem : Part :=
  .either [[Phrase.naming], [Phrase.expression, .notAhead [":="]]]

/-- Arguments that are given by position. -/
def positionalArguments : Part :=
  .separated [.either [[Phrase.starredArgument], [anItem, .notAhead ["="]]]]

/-- The words that made a statement without brackets once. -/
def bracketlessNames : List String :=
  ["print", "exec"]

/-- The name of something that made a statement without brackets once. -/
def bracketlessName? : Tree → Option String
  | .name text => if bracketlessNames.contains text then some text else none
  | _ => none

/-- All items of some trees. -/
def itemsOf (trees : List Tree) : List Tree :=
  trees.flatMap Tree.argumentList

/-- A call of the first tree. -/
def callOf : List Tree → Tree
  | called :: others => .call called (.arguments (itemsOf others))
  | [] => .other

/-- The sum of two trees. -/
def sumOf : List Tree → Tree
  | [left, right] => .sum left right
  | _ => .other

/-- A sign in front of a tree. -/
def signedOf (trees : List Tree) : Tree :=
  .signed (trees.headD .other)

/-- A starred tree. -/
def starredOf (trees : List Tree) : Tree :=
  .starred (trees.headD .other)

/-- An entry of a dictionary. -/
def entryOf : List Tree → Tree
  | [key, value] => .entry key value
  | _ => .other

/-- A comparison of the first tree with others. -/
def comparisonOf : List Tree → Tree
  | left :: .comparison _ isIn :: _ => .comparison left isIn
  | _ => .other

/-- An operation, whatever is operated on. -/
def operationOf (_ : List Tree) : Tree :=
  .operation

/-- The patterns of operations with signs between the operands. -/
def operations (signs : List String) (operand : Phrase) (build : List Tree → Tree) :
    Pattern where
  choices := [pass [operand]]
  steps := signs.map fun sign => make [.sign sign, .phrase operand] build
  isRemembered := true

/-- The pattern of operations with a word between the operands. -/
def wordOperations (word : String) (operand : Phrase) : Pattern where
  choices :=
    [make [operand, .atLeastOne [word, operand]] operationOf, pass [operand]]
  isRemembered := true

/-- The signs and words for comparisons other than the question for a member. -/
def comparisonWords : List (List Part) :=
  [["=="], ["!="], ["<="], ["<"], [">="], [">"], ["not", "in"], ["is", "not"], ["is"]]

/-- The choices for the right side of a comparison. -/
def comparands : List Choice :=
  make ["in", Phrase.bitOr] (fun _ => .comparison .other true) ::
    comparisonWords.map fun words =>
      make (words ++ [.phrase .bitOr]) fun _ => .comparison .other false

/-- One or more of a phrase with commas between them, which make a tuple if there are any. -/
def commaSeparated (item : Phrase) : List Choice :=
  [make [item, .atLeastOne [",", item], .optional [","]] .tuple,
    make [item, ","] .tuple,
    pass [item]]

/-- The choices for an expression that is not wrong. -/
def properExpressions : List Choice :=
  [make [Phrase.disjunction, "if", Phrase.disjunction, "else", Phrase.expression]
      fun _ => .conditional,
    pass [Phrase.disjunction],
    pass [Phrase.function]]

/-- The choices for a parameter that consists of some parts. -/
def parameter (parts : List Part) : List Choice :=
  [pass (parts ++ [.sign ","]), pass (parts ++ [.ahead [":"]])]

/-- The choices for parameters in front of a slash. -/
def beforeSlash (parts : List Part) : List Choice :=
  [pass (parts ++ [.sign "/", .sign ","]), pass (parts ++ [.sign "/", .ahead [":"]])]

/-- What can stand behind a target that goes on. -/
def targetGoesOn : Part :=
  .either [["("], ["."]]

/-- A loop from its first word on. -/
def loopFrom (words : List Part) : Choice :=
  pass (words ++ [.phrase .targets, .sign "in", .commit, .phrase .disjunction,
    .many ["if", Phrase.disjunction]])

/-- What is wrong with two expressions next to each other. -/
def besideOutcome (depth : Nat) (trees : List Tree) : Outcome :=
  match trees with
  | first :: _ =>
      if (bracketlessName? first).isSome || depth = 0 then .refuse
      else .complain .missingComma
  | [] => .refuse

/-- What is wrong with a name in front of an expression. -/
def bracketlessOutcome (trees : List Tree) : Outcome :=
  match trees.head?.bind bracketlessName? with
  | some name => .complain (.missingCall name)
  | none => .refuse

/-- What is wrong with the first tree, if something is assigned to it. -/
def assignedOutcome (mistake : String → Mistake) (trees : List Tree) : Outcome :=
  .complain (mistake (trees.headD .other).description)

/-- What is wrong with the first tree as the target of a loop. -/
def targetOutcome (trees : List Tree) : Outcome :=
  match trees.head?.bind Tree.wrongTarget? with
  | some tree => .complain (.cannotAssign tree.description)
  | none => .refuse

/-- What is wrong with arguments in front of a loop. -/
def loopOutcome (trees : List Tree) : Outcome :=
  if ((itemsOf (trees.take 1)).filter Tree.isPositional).length ≤ 1 then .refuse
  else .complain .generatorArgument

/-- What is wrong with arguments behind others. -/
def orderOutcome (trees : List Tree) : Outcome :=
  let isSpread : Tree → Bool
    | .spread => true
    | _ => false
  .complain
    (if (itemsOf (trees.take 1)).any isSpread then .positionalAfterSpread
    else .positionalAfterKeyword)

/-- The words that nothing can be assigned to, as choices of an assignment. -/
def assignedConstants : List Choice :=
  ["True", "False", "None"].map fun word => wrong [.sign word, "="] (.cannotAssign word)

/-- The choices for entries of a dictionary without a proper value. -/
def valuelessEntries : List Choice :=
  [wrong [Phrase.expression, ":", "*", Phrase.bitOr] .starredEntryValue,
    wrong [Phrase.expression, ":", .ahead [.either [["\x7d"], [","]]]] .missingEntryValue]

/-- No further assignment follows. -/
def noFurtherAssignment : Part :=
  .notAhead [.either [["="], [":="]]]

/-- The pattern of a phrase. -/
def Phrase.pattern : Phrase → Pattern
  | .literal =>
      { choices :=
          [pass [Phrase.expressions, .many [.lexeme .lineEnd], .lexeme .stop]] }
  | .inserted => { choices := [pass [Phrase.starExpressions]] }
  | .expressions => { choices := commaSeparated .expression }
  | .expression =>
      { choices :=
          [complaint .wrongExpression, complaint .wrongCall] ++ properExpressions
        isRemembered := true }
  | .bareExpression => { choices := properExpressions, isQuiet := true }
  | .yielding =>
      { choices :=
          [make ["yield", "from", Phrase.expression] fun _ => .yield,
            make ["yield", .optional [Phrase.starExpressions]] fun _ => .yield] }
  | .starExpressions => { choices := commaSeparated .starExpression }
  | .starExpression =>
      { choices := [make ["*", Phrase.bitOr] starredOf, pass [Phrase.expression]]
        isRemembered := true }
  | .namedItems =>
      { choices := [make [.separated [Phrase.namedItem], .optional [","]] .arguments] }
  | .namedItem =>
      { choices := [make ["*", Phrase.bitOr] starredOf, pass [Phrase.namedExpression]] }
  | .naming =>
      { choices :=
          [make [aName, ":=", .commit, Phrase.expression] fun _ => .namedExpression] }
  | .namedExpression =>
      { choices :=
          [pass [Phrase.naming], complaint .wrongNaming,
            pass [Phrase.expression, .notAhead [":="]]] }
  | .disjunction => wordOperations "or" .conjunction
  | .conjunction => wordOperations "and" .inversion
  | .inversion =>
      { choices :=
          [make ["not", Phrase.inversion] operationOf, pass [Phrase.comparison]]
        isRemembered := true }
  | .comparison =>
      { choices :=
          [make [Phrase.bitOr, .atLeastOne [Phrase.comparand]] comparisonOf,
            pass [Phrase.bitOr]] }
  | .comparand => { choices := comparands }
  | .bitOr => operations ["|"] .bitXor operationOf
  | .bitXor => operations ["^"] .bitAnd operationOf
  | .bitAnd => operations ["&"] .shift operationOf
  | .shift => operations ["<<", ">>"] .sum operationOf
  | .sum => operations ["+", "-"] .product sumOf
  | .product => operations ["*", "/", "//", "%", "@"] .factor operationOf
  | .factor =>
      { choices :=
          [make ["+", Phrase.factor] signedOf, make ["-", Phrase.factor] signedOf,
            make ["~", Phrase.factor] operationOf, pass [Phrase.power]]
        isRemembered := true }
  | .power =>
      { choices :=
          [make [Phrase.awaiting, "**", Phrase.factor] operationOf, pass [Phrase.awaiting]] }
  | .awaiting =>
      { choices :=
          [make ["await", Phrase.primary] fun _ => .await, pass [Phrase.primary]]
        isRemembered := true }
  | .primary =>
      { choices := [pass [Phrase.atom]]
        steps :=
          [make [".", aName] fun _ => .member,
            make [Phrase.generator] callOf,
            make ["(", .optional [Phrase.arguments], ")"] callOf]
        isRemembered := true }
  | .atom =>
      { choices :=
          [pass [aName],
            make ["True"] fun _ => .constant .true,
            make ["False"] fun _ => .constant .false,
            make ["None"] fun _ => .constant .none,
            pass [.ahead [.lexeme .quotation], Phrase.quotations],
            pass [.lexeme .number],
            pass [.ahead ["("],
              .either [[Phrase.tuple], [Phrase.group], [Phrase.generator]]],
            pass [.ahead ["\x7b"],
              .either [[Phrase.dictionary], [Phrase.setDisplay],
                [Phrase.dictionaryComprehension], [Phrase.setComprehension]]],
            make ["..."] fun _ => .constant .ellipsis] }
  | .quotations => { choices := [pass [.quotations]], isRemembered := true }
  | .group =>
      { choices :=
          [pass ["(", .either [[Phrase.yielding], [Phrase.namedExpression]], ")"],
            complaint .wrongGroup] }
  | .tuple =>
      { choices :=
          [make ["(", .optional [Phrase.namedItem, ",", .optional [Phrase.namedItems]], ")"]
            fun trees => .tuple (itemsOf trees)] }
  | .setDisplay =>
      { choices :=
          [make ["\x7b", Phrase.namedItems, "\x7d"] fun trees => .set (itemsOf trees)] }
  | .dictionary =>
      { choices :=
          [make ["\x7b", .optional [Phrase.entries], "\x7d"]
              fun trees => .dictionary (itemsOf trees),
            pass ["\x7b", Phrase.wrongEntries, "\x7d"]] }
  | .entries =>
      { choices := [make [.separated [Phrase.entry], .optional [","]] .arguments] }
  | .entry =>
      { choices := [make ["**", Phrase.bitOr] fun _ => .spread, pass [Phrase.pair]] }
  | .pair =>
      { choices := [make [Phrase.expression, ":", Phrase.expression] entryOf] }
  | .loops => { choices := [pass [.atLeastOne [Phrase.loop]]] }
  | .loop =>
      { choices :=
          [loopFrom ["async", "for"], loopFrom ["for"], complaint .wrongTarget] }
  | .generator =>
      { choices :=
          [make ["(", anItem, Phrase.loops, ")"] fun _ => .generator,
            complaint .wrongComprehension] }
  | .setComprehension =>
      { choices :=
          [make ["\x7b", Phrase.namedExpression, Phrase.loops, "\x7d"]
              fun _ => .setComprehension,
            complaint .wrongComprehension] }
  | .dictionaryComprehension =>
      { choices :=
          [make ["\x7b", Phrase.pair, Phrase.loops, "\x7d"] fun _ => .dictionaryComprehension,
            complaint .wrongDictionaryComprehension] }
  | .arguments =>
      { choices :=
          [pass [Phrase.argumentList, .optional [","], .ahead [")"]],
            complaint .wrongArguments]
        isRemembered := true }
  | .argumentList =>
      { choices :=
          [make [positionalArguments, .optional [",", Phrase.keywordArguments]]
              fun trees => .arguments (itemsOf trees),
            pass [Phrase.keywordArguments]] }
  | .keywordArguments =>
      { choices :=
          [make
              [.separated [Phrase.keywordOrStarred], ",", .separated [Phrase.keywordOrSpread]]
              .arguments,
            make [.separated [Phrase.keywordOrStarred]] .arguments,
            make [.separated [Phrase.keywordOrSpread]] .arguments] }
  | .starredArgument =>
      { choices := [make ["*", Phrase.expression] starredOf, wrong ["*"] .bareStar] }
  | .keywordOrStarred =>
      { choices :=
          [complaint .wrongKeyword, make [aName, "=", Phrase.expression] fun _ => .keyword,
            pass [Phrase.starredArgument]] }
  | .keywordOrSpread =>
      { choices :=
          [complaint .wrongKeyword, make [aName, "=", Phrase.expression] fun _ => .keyword,
            make ["**", Phrase.expression] fun _ => .spread] }
  | .targets =>
      { choices :=
          [pass [Phrase.target, .notAhead [","]],
            pass [Phrase.target, .many [",", Phrase.target], .optional [","]]] }
  | .target =>
      { choices :=
          [pass ["*", .notAhead ["*"], Phrase.target], pass [Phrase.plainTarget]]
        isRemembered := true }
  | .plainTarget =>
      { choices :=
          [pass [Phrase.targetPrimary, ".", aName, .notAhead [targetGoesOn]],
            pass [Phrase.targetAtom]]
        isRemembered := true }
  | .targetAtom =>
      { choices :=
          [pass [aName], pass ["(", Phrase.plainTarget, ")"],
            pass ["(", .optional [Phrase.targetTuple], ")"]] }
  | .targetTuple =>
      { choices :=
          [pass [Phrase.target, .atLeastOne [",", Phrase.target], .optional [","]],
            pass [Phrase.target, ","]] }
  | .targetPrimary =>
      { choices := [pass [Phrase.atom, .ahead [targetGoesOn]]]
        steps :=
          [pass [".", aName, .ahead [targetGoesOn]],
            pass [Phrase.generator, .ahead [targetGoesOn]],
            pass ["(", .optional [Phrase.arguments], ")", .ahead [targetGoesOn]]]
        isRemembered := true }
  | .function =>
      { choices :=
          [make ["lambda", .optional [Phrase.parameters], ":", Phrase.expression]
            fun _ => .function] }
  | .parameters =>
      { choices := [complaint .wrongParameters, pass [Phrase.parameterList]] }
  | .parameterList =>
      { choices :=
          [pass [Phrase.plainBeforeSlash, .many [Phrase.plainParameter],
              .many [Phrase.defaultParameter], .optional [Phrase.starParameters]],
            pass [Phrase.defaultsBeforeSlash, .many [Phrase.defaultParameter],
              .optional [Phrase.starParameters]],
            pass [.atLeastOne [Phrase.plainParameter], .many [Phrase.defaultParameter],
              .optional [Phrase.starParameters]],
            pass [.atLeastOne [Phrase.defaultParameter], .optional [Phrase.starParameters]],
            pass [Phrase.starParameters]] }
  | .plainBeforeSlash => { choices := beforeSlash [.atLeastOne [Phrase.plainParameter]] }
  | .defaultsBeforeSlash =>
      { choices :=
          beforeSlash
            [.many [Phrase.plainParameter], .atLeastOne [Phrase.defaultParameter]] }
  | .starParameters =>
      { choices :=
          [complaint .wrongStarParameters,
            pass ["*", Phrase.plainParameter, .many [Phrase.anyParameter],
              .optional [Phrase.doubleStarParameter]],
            pass ["*", ",", .atLeastOne [Phrase.anyParameter],
              .optional [Phrase.doubleStarParameter]],
            pass [Phrase.doubleStarParameter]] }
  | .doubleStarParameter =>
      { choices :=
          [complaint .wrongDoubleStarParameter, pass ["**", Phrase.plainParameter]] }
  | .plainParameter => { choices := parameter [aName] }
  | .defaultParameter => { choices := parameter [aName, Phrase.defaultValue] }
  | .anyParameter => { choices := parameter [aName, .optional [Phrase.defaultValue]] }
  | .defaultValue =>
      { choices := [pass ["=", Phrase.expression], complaint .wrongDefault] }
  | .wrongExpression =>
      { choices :=
          [judgeInside
              [.notAhead [.either [[aName, .lexeme .quotation], [.softWord]]],
                Phrase.disjunction, Phrase.bareExpression]
              besideOutcome,
            wrong
              [Phrase.disjunction, "if", Phrase.disjunction,
                .notAhead [.either [["else"], [":"]]]]
              .missingElse] }
  | .wrongCall =>
      { choices :=
          [judge [aName, .notAhead ["("], Phrase.starExpressions] bracketlessOutcome] }
  | .wrongNaming =>
      { choices :=
          [judge [Phrase.expression, ":=", Phrase.expression]
              (assignedOutcome .cannotAssignInline),
            wrong [aName, "=", Phrase.bitOr, noFurtherAssignment] .equalsForName,
            judge
              [.notAhead [.either [[Phrase.tuple], [Phrase.generator], ["True"], ["None"],
                ["False"]]], Phrase.bitOr, "=", Phrase.bitOr, noFurtherAssignment]
              (assignedOutcome .cannotAssignHere)]
        isRemembered := true }
  | .wrongGroup =>
      { choices :=
          [wrong ["(", Phrase.starredArgument, ")"] .starredHere,
            wrong ["(", "**", Phrase.expression, ")"] .doubleStarredHere] }
  | .wrongComprehension =>
      { choices :=
          [wrong [.either [["("], ["\x7b"]], Phrase.starredArgument, Phrase.loops]
              .starredInComprehension,
            wrong ["\x7b", Phrase.namedItem, ",", Phrase.namedItems, Phrase.loops]
              .comprehensionTarget,
            wrong ["\x7b", Phrase.namedItem, ",", Phrase.loops] .comprehensionTarget] }
  | .wrongDictionaryComprehension =>
      { choices :=
          [wrong ["\x7b", "**", Phrase.bitOr, Phrase.loops, "\x7d"]
            .spreadInComprehension] }
  | .wrongTarget =>
      { choices :=
          [judge [.optional ["async"], "for", Phrase.starExpressions] targetOutcome] }
  | .wrongArguments =>
      { choices :=
          [wrong
              [.either
                  [[positionalArguments, ",", Phrase.keywordArguments],
                    [Phrase.keywordArguments]],
                ",", .separated [Phrase.starredArgument, .notAhead ["="]]]
              .starredAfterSpread,
            wrong
              [Phrase.expression, Phrase.loops, ",",
                .optional
                  [.either [[Phrase.argumentList], [Phrase.expression, Phrase.loops]]]]
              .generatorArgument,
            wrong [aName, "=", Phrase.expression, Phrase.loops] .equalsForName,
            judge [Phrase.argumentList, Phrase.loops] loopOutcome,
            wrong [Phrase.argumentList, ",", Phrase.expression, Phrase.loops]
              .generatorArgument,
            judge [Phrase.argumentList, ",", Phrase.argumentList] orderOutcome] }
  | .wrongKeyword =>
      { choices :=
          assignedConstants ++
            [wrong [aName, "=", Phrase.expression, Phrase.loops] .equalsForName,
              wrong [.notAhead [aName, "="], Phrase.expression, "="]
                .assignmentInArgument] }
  | .wrongEntries =>
      { choices :=
          pass [.separated [Phrase.entry], ",", Phrase.wrongEntry] :: valuelessEntries }
  | .wrongEntry =>
      { choices :=
          wrong [Phrase.expression, .notAhead [":"]] .missingColon :: valuelessEntries }
  | .wrongParameters =>
      { choices :=
          [wrong
              [.many [Phrase.plainParameter],
                .either [[Phrase.defaultsBeforeSlash], [.atLeastOne [Phrase.defaultParameter]]],
                Phrase.plainParameter]
              .parameterWithoutDefault,
            wrong
              [.many [Phrase.plainParameter], "(", .separated [aName], .optional [","], ")"]
              .parametersInBrackets,
            wrong ["/", ","] .nothingBeforeSlash,
            wrong
              [.either [[Phrase.plainBeforeSlash], [Phrase.defaultsBeforeSlash]],
                .many [Phrase.anyParameter], "/"]
              .secondSlash,
            wrong
              [.optional [.either [[Phrase.plainBeforeSlash], [Phrase.defaultsBeforeSlash]]],
                .many [Phrase.anyParameter], "*", .either [[","], [Phrase.plainParameter]],
                .many [Phrase.anyParameter], "/"]
              .slashAfterStar,
            wrong [.atLeastOne [Phrase.anyParameter], "/", "*"] .commaBetweenSlashAndStar] }
  | .wrongStarParameters =>
      { choices :=
          [wrong ["*", .either [[":"], [",", .either [[":"], ["**"]]]]] .nothingAfterStar,
            wrong ["*", aName, "="] .starredDefault,
            wrong
              ["*", .either [[Phrase.plainParameter], [","]], .many [Phrase.anyParameter], "*",
                .either [[Phrase.plainParameter], [","]]]
              .secondStar] }
  | .wrongDoubleStarParameter =>
      { choices :=
          [wrong ["**", aName, "="] .doubleStarredDefault,
            wrong ["**", aName, ",", aName] .parameterAfterDoubleStar,
            wrong ["**", aName, ",", .either [["*"], ["**"], ["/"]]]
              .parameterAfterDoubleStar] }
  | .wrongDefault =>
      { choices := [wrong ["=", .ahead [.either [[")"], [","]]]] .missingDefault] }

end Literal

end GrammarCorpus
