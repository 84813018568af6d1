import GrammarCorpus.Proofs.Dialect
import GrammarCorpus.Proofs.GrammarShape
import GrammarCorpus.Text.Numeral
import GrammarCorpus.Text.Utf8

namespace GrammarCorpus

/-!
# Renderings that are read back

With the standard names, a generated grammar consists of letters and of marks that its
rendering puts between them. Written into a file, the rendering is read back as the same
text, and from that text as many rules are counted as the grammar was to have.
-/

namespace Text

/-- Without carriage returns there are no line ends to unify. -/
theorem unifyLineEnds_of_not_mem
    {characters : List Char}
    (absent : '\r' ∉ characters) :
    unifyLineEnds characters = characters := by
  induction characters with
  | nil => rfl
  | cons character rest inductionHypothesis =>
      obtain ⟨differs, later⟩ : '\r' ≠ character ∧ '\r' ∉ rest := by simpa using absent
      rw [unifyLineEnds, inductionHypothesis later]
      · rintro _ rfl
        exact absurd rfl differs
      · rintro rfl
        exact absurd rfl differs

/-- What is read back from the bytes of a text are its characters, with line ends unified. -/
theorem decode?_toUTF8_eq (text : String) :
    decode? text.toUTF8 = some (String.ofList (unifyLineEnds text.toList)) := by
  have valid : String.fromUTF8? text.toUTF8 = some text := by
    unfold String.fromUTF8?
    exact dif_pos text.isValidUTF8
  rw [decode?, valid, Option.map_some]

/-- A text without carriage returns is read back from the bytes of a file. -/
theorem decode?_toUTF8
    {text : String}
    (absent : '\r' ∉ text.toList) :
    decode? text.toUTF8 = some text := by
  rw [decode?_toUTF8_eq, unifyLineEnds_of_not_mem absent, String.ofList_toList]

/-- The sizes that the standard alphabets allow are read back from their numerals. -/
theorem integer?_toString
    {size : Int}
    (least : 2 ≤ size)
    (greatest : size ≤ 26) :
    integer? (toString size) = some size := by
  have small : ∀ number : Fin 27, integer? (toString (number.val : Int)) = some number.val := by
    decide +kernel
  obtain ⟨number, rfl⟩ := Int.eq_ofNat_of_zero_le (show 0 ≤ size by omega)
  exact small ⟨number, by omega⟩

end Text

section Characters

variable {character : Char}

/-- A character that stands neither in the texts nor between them. -/
theorem not_mem_intercalate
    {separator : String}
    {texts : List String}
    (outside : character ∉ separator.toList)
    (absent : ∀ text ∈ texts, character ∉ text.toList) :
    character ∉ (separator.intercalate texts).toList := by
  rw [String.toList_intercalate]
  refine Text.intercalate_induction (character ∉ ·) List.not_mem_nil ?_ outside ?_
  · intro first second absentFirst absentSecond
    simp [absentFirst, absentSecond]
  · intro text member
    obtain ⟨piece, isPiece, rfl⟩ := List.mem_map.1 member
    exact absent piece isPiece

/-- What a rendering puts between names. -/
def Grammar.marks : List Char :=
  "%start\n|:;' ".toList

/-- A character that stands in no name of a rule, and is no mark, stands nowhere in its text. -/
theorem Rule.not_mem_text
    {rule : Rule}
    (noMark : character ∉ Grammar.marks)
    (noName : character ∉ rule.lhs.toList)
    (noSymbol : ∀ alternative ∈ rule.alternatives,
      ∀ symbol ∈ alternative.symbols, character ∉ symbol.name.toList) :
    character ∉ rule.text.toList := by
  have outside : ∀ text : String, text.toList ⊆ Grammar.marks → character ∉ text.toList :=
    fun text marks member => noMark (marks member)
  simp only [Rule.text, String.toList_append, List.mem_append, not_or]
  refine ⟨⟨noName, outside ": " (by decide)⟩, ?_⟩
  refine not_mem_intercalate (outside " | " (by decide)) ?_
  intro alternativeText isAlternative
  obtain ⟨alternative, member, rfl⟩ := List.mem_map.1 isAlternative
  refine not_mem_intercalate (outside " " (by decide)) ?_
  intro text isText
  obtain ⟨symbol, isSymbol, rfl⟩ := List.mem_map.1 isText
  have absent := noSymbol alternative member symbol isSymbol
  cases symbol with
  | nonterminal name => exact absent
  | terminal name =>
      rw [Symbol.text, String.toList_append, String.toList_append]
      simp only [List.mem_append, not_or]
      exact ⟨⟨outside "'" (by decide), absent⟩, outside "'" (by decide)⟩

/-- A character that stands in no name of a grammar, and is no mark, stands nowhere. -/
theorem Grammar.not_mem_framed
    {root : Rule}
    {others : List Rule}
    (noMark : character ∉ Grammar.marks)
    (noName : ∀ rule ∈ root :: others, character ∉ rule.lhs.toList)
    (noSymbol : ∀ rule ∈ root :: others, ∀ alternative ∈ rule.alternatives,
      ∀ symbol ∈ alternative.symbols, character ∉ symbol.name.toList) :
    character ∉ (framed root (Grammar.text { rules := root :: others })).toList := by
  have outside : ∀ text : String, text.toList ⊆ Grammar.marks → character ∉ text.toList :=
    fun text marks member => noMark (marks member)
  have body : character ∉ (Grammar.text { rules := root :: others }).toList := by
    refine not_mem_intercalate (outside "\n" (by decide)) ?_
    intro text isText
    obtain ⟨rule, isRule, rfl⟩ := List.mem_map.1 isText
    rw [String.toList_append, List.mem_append, not_or]
    exact ⟨Rule.not_mem_text noMark (noName rule isRule) (noSymbol rule isRule),
      outside "\n;" (by decide)⟩
  simp only [framed, String.toList_append, List.mem_append, not_or]
  exact ⟨⟨⟨⟨outside "%start " (by decide), noName root List.mem_cons_self⟩,
    outside "\n\n%%\n\n" (by decide)⟩, body⟩, outside "\n\n%%\n" (by decide)⟩

end Characters

/-- A configuration whose names are the standard ones. -/
structure Config.IsNamedStandardly (config : Config) : Prop where
  nonterminals : config.nonterminalAlphabet = Config.standard.nonterminalAlphabet
  terminals : config.terminalAlphabet = Config.standard.terminalAlphabet
  root : config.rootName = Config.standard.rootName

/--
The canonical rendering of a grammar, which is read back from a file that holds it, and
from which so many rules are counted.
-/
structure IsRendering (size : Int) (text : String) : Prop where
  isCanonical : ∃ grammar : Grammar, grammar.canonical? = some text
  isDecoded : Text.decode? text.toUTF8 = some text
  isCounted : ∃ shape, Shape.recount text = .ok shape ∧ (shape.rules : Int) = size

namespace Generator

variable {generator : Generator} {root : Rule} {others : List Rule} {size : Int}

/-- A name of the standard alphabets, or that of the root. -/
def standardNames : List String :=
  Config.standard.rootName :: Config.letters Config.standard.nonterminalAlphabet

/-- The names of nonterminals can be read back, and none of them holds a line end. -/
theorem isName_of_mem_standardNames
    {name : String}
    (member : name ∈ standardNames) :
    Recount.IsName name ∧ '\r' ∉ name.toList := by
  have all : ∀ name ∈ standardNames, Recount.IsName name ∧ '\r' ∉ name.toList := by
    decide +kernel
  exact all name member

/-- The names of terminals can be read back, and none of them holds a line end. -/
theorem isQuotable_of_mem_letters
    {name : String}
    (member : name ∈ Config.letters Config.standard.terminalAlphabet) :
    Recount.IsQuotable name ∧ '\r' ∉ name.toList := by
  have all : ∀ name ∈ Config.letters Config.standard.terminalAlphabet,
      Recount.IsQuotable name ∧ '\r' ∉ name.toList := by
    decide +kernel
  exact all name member

section Standard

variable (yields : generator.Yields root others) (selected : generator.Selected size)
variable (standard : generator.config.IsNamedStandardly)

include selected standard

/-- The names that were selected are standard ones. -/
theorem Selected.mem_standardNames {name : String} (member : name ∈ generator.nonterminals) :
    name ∈ standardNames := by
  have isLetter := selected.nonterminals_subset member
  rw [standard.nonterminals] at isLetter
  exact List.mem_cons_of_mem _ isLetter

/-- The standard name of the root is not selected. -/
theorem Selected.rootName_not_mem : generator.config.rootName ∉ generator.nonterminals := by
  intro member
  have isLetter := selected.nonterminals_subset member
  rw [standard.root, standard.nonterminals] at isLetter
  revert isLetter
  decide +kernel

include yields

/-- The rules are those of standard names. -/
theorem Yields.lhs_mem_standardNames {rule : Rule} (member : rule ∈ root :: others) :
    rule.lhs ∈ standardNames := by
  rcases List.mem_cons.1 member with rfl | isOther
  · rw [yields.rootFits.lhs_eq, standard.root]
    exact List.mem_cons_self
  · exact selected.mem_standardNames standard (yields.expanded.lhs_mem isOther).1

/-- The symbols are those of standard names, or of standard terminals. -/
theorem Yields.name_mem_standardNames
    {rule : Rule}
    {alternative : Alternative}
    {symbol : Symbol}
    (isRule : rule ∈ root :: others)
    (member : alternative ∈ rule.alternatives)
    (isSymbol : symbol ∈ alternative.symbols) :
    (∃ name ∈ standardNames, symbol = .nonterminal name) ∨
      ∃ name ∈ Config.letters Config.standard.terminalAlphabet, symbol = .terminal name := by
  obtain ⟨isRoot, fits⟩ := yields.fits isRule
  have isCandidate := (fits.alternativesFit.each alternative member).candidates _ isSymbol
  have inPool := (mem_candidates.1 isCandidate).1
  cases symbol with
  | nonterminal name =>
      exact .inl ⟨name,
        selected.mem_standardNames standard (nonterminal_mem_pool.1 inPool), rfl⟩
  | terminal name =>
      have isLetter := selected.terminals_subset (terminal_mem_pool.1 inPool)
      rw [standard.terminals] at isLetter
      exact .inr ⟨name, isLetter, rfl⟩

/-- The symbols can be read back, and none of them holds a line end. -/
theorem Yields.isReadable_symbol
    {rule : Rule}
    {alternative : Alternative}
    {symbol : Symbol}
    (isRule : rule ∈ root :: others)
    (member : alternative ∈ rule.alternatives)
    (isSymbol : symbol ∈ alternative.symbols) :
    Recount.IsReadable symbol ∧ '\r' ∉ symbol.name.toList := by
  rcases yields.name_mem_standardNames selected standard isRule member isSymbol with
    ⟨name, isName, rfl⟩ | ⟨name, isLetter, rfl⟩
  · exact isName_of_mem_standardNames isName
  · exact isQuotable_of_mem_letters isLetter

/-- The rules can be read back. -/
theorem Yields.isReadable : Grammar.IsReadable { rules := root :: others } := by
  intro rule member
  refine ⟨(isName_of_mem_standardNames
    (yields.lhs_mem_standardNames selected standard member)).1, ?_, ?_⟩
  · intro none
    obtain ⟨isRoot, fits⟩ := yields.fits member
    have some := Int.le_trans generator.config.oneAlternative fits.least
    rw [none] at some
    exact absurd some (by decide)
  · intro alternative isAlternative symbol isSymbol
    exact (yields.isReadable_symbol selected standard member isAlternative isSymbol).1

/-- The grammar has the shape that is demanded, since the standard names are all different. -/
theorem Yields.hasStandardShape :
    Grammar.HasShape generator.config size { rules := root :: others } := by
  refine yields.hasShape selected (selected.rootName_not_mem standard) ?_
  rw [standard.nonterminals]
  decide +kernel

/-- What a generator yields with the standard names is a rendering of the right size. -/
theorem Yields.isRendering :
    IsRendering size (Grammar.framed root (Grammar.text { rules := root :: others })) := by
  have counted :=
    Recount.Dialect.plain.recount_framed (yields.isReadable selected standard)
  rw [Recount.Dialect.text_plain] at counted
  refine {
    isCanonical := ⟨{ rules := root :: others }, rfl⟩
    isDecoded := ?_
    isCounted := ⟨_, counted, (yields.hasStandardShape selected standard).rules_length⟩ }
  refine Text.decode?_toUTF8 (Grammar.not_mem_framed (by decide) ?_ ?_)
  · exact fun rule member => (isName_of_mem_standardNames
      (yields.lhs_mem_standardNames selected standard member)).2
  · exact fun rule isRule alternative member symbol isSymbol =>
      (yields.isReadable_symbol selected standard isRule member isSymbol).2

end Standard

end Generator

/-- With the standard names, what is generated has a rendering of the right size. -/
theorem Config.generated_isRendering
    {σ : Type}
    [RandomSource σ]
    [LawfulRandomSource σ]
    {config : Config}
    {size : Int}
    {state : σ}
    {grammar : Grammar}
    (standard : config.IsNamedStandardly)
    (generated : ((config.generate size).run.run state).1 = .ok (some grammar)) :
    ∃ text, grammar.canonical? = some text ∧ IsRendering size text := by
  obtain ⟨generator, root, others, rfl, selected, rfl, yields⟩ :=
    config.generate_gives size state _ generated grammar rfl
  exact ⟨_, rfl, yields.isRendering selected standard⟩

end GrammarCorpus
