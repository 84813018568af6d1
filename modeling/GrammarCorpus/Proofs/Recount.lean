import GrammarCorpus.Recount
import GrammarCorpus.Rendering
import GrammarCorpus.Proofs.Text.Splitting

namespace GrammarCorpus

/-!
# Renderings keep the shape of a grammar

The shape of a grammar is read back from any of its renderings if names look like names and
quoted terminals hold none of the marks that a text is cut at. A dialect writes every
alternative so that its symbols are counted right between blanks; the marks between the
alternatives, between the rules and around the body are then the only ones of their kind.
-/

namespace Recount

/-- A name of ASCII letters, digits and underscores that no digit starts. -/
def IsName (name : String) : Prop :=
  ∃ first rest, name.toList = first :: rest ∧
    isNameStart first = true ∧ ∀ character ∈ rest, isNameRest character = true

/-- No mark that a text is cut at occurs in a terminal. -/
structure IsQuotable (name : String) : Prop where
  noApostrophe : '\'' ∉ name.toList
  noBar : '|' ∉ name.toList
  noSection : ¬ ['%', '%'] <:+: name.toList
  noClosing : ¬ ['\n', ';'] <:+: name.toList

/-- A symbol that is counted as one. -/
def IsReadable : Symbol → Prop
  | .terminal name => IsQuotable name
  | .nonterminal name => IsName name

/-- A symbol that is written so that it shows where it ends. -/
def IsSeparable : Symbol → Prop
  | .terminal name => '\'' ∉ name.toList
  | .nonterminal name => IsName name

/-- What is counted as one symbol shows where it ends. -/
theorem IsReadable.isSeparable {symbol : Symbol} (readable : IsReadable symbol) :
    IsSeparable symbol := by
  cases symbol with
  | terminal name => exact IsQuotable.noApostrophe readable
  | nonterminal name => exact readable

instance (name : String) : Decidable (IsName name) :=
  match split : name.toList with
  | [] => .isFalse (by
      rintro ⟨first, rest, same, -⟩
      exact List.cons_ne_nil _ _ (same.symm.trans split))
  | first :: rest =>
      decidable_of_iff
        (isNameStart first = true ∧ rest.all isNameRest = true)
        ⟨fun holds => ⟨first, rest, split, holds.1, List.all_eq_true.1 holds.2⟩, by
          rintro ⟨other, others, same, starts, goesOn⟩
          cases same.symm.trans split
          exact ⟨starts, List.all_eq_true.2 goesOn⟩⟩

instance (name : String) : Decidable (IsQuotable name) :=
  decidable_of_iff
    ('\'' ∉ name.toList ∧ '|' ∉ name.toList ∧
      Text.Apart '%' '%' name.toList ∧ Text.Apart '\n' ';' name.toList)
    ⟨fun holds => ⟨holds.1, holds.2.1, Text.apart_iff.1 holds.2.2.1, Text.apart_iff.1 holds.2.2.2⟩,
      fun quotable => ⟨quotable.noApostrophe, quotable.noBar,
        Text.apart_iff.2 quotable.noSection, Text.apart_iff.2 quotable.noClosing⟩⟩

instance : (symbol : Symbol) → Decidable (IsReadable symbol)
  | .terminal name => inferInstanceAs (Decidable (IsQuotable name))
  | .nonterminal name => inferInstanceAs (Decidable (IsName name))

instance : (symbol : Symbol) → Decidable (IsSeparable symbol)
  | .terminal name => inferInstanceAs (Decidable ('\'' ∉ name.toList))
  | .nonterminal name => inferInstanceAs (Decidable (IsName name))

/-- A name may go on with what it may start with. -/
theorem isNameRest_of_isNameStart
    {character : Char}
    (isStart : isNameStart character = true) :
    isNameRest character = true := by
  rw [isNameStart, Bool.or_eq_true] at isStart
  rw [isNameRest, Bool.or_eq_true]
  refine isStart.imp_left fun isLetter => ?_
  rw [Char.isAlphanum, isLetter]
  rfl

/-- No blank character starts a name. -/
theorem not_isBlank_of_isNameStart
    {character : Char}
    (isStart : isNameStart character = true) :
    Text.isBlank character = false := by
  have range : 65 ≤ character.toNat ∧ character.toNat ≤ 122 := by
    rw [isNameStart, Bool.or_eq_true, decide_eq_true_eq] at isStart
    rcases isStart with isLetter | rfl
    · rcases Bool.or_eq_true_iff.1 isLetter with isUpper | isLower
      · obtain ⟨least, greatest⟩ := of_decide_eq_true isUpper
        rw [ge_iff_le, UInt32.le_iff_toNat_le] at least
        rw [UInt32.le_iff_toNat_le] at greatest
        exact ⟨least, Nat.le_trans greatest (by decide)⟩
      · obtain ⟨least, greatest⟩ := Bool.and_eq_true_iff.1 isLower
        rw [decide_eq_true_eq, ge_iff_le, UInt32.le_iff_toNat_le] at least
        rw [decide_eq_true_eq, UInt32.le_iff_toNat_le] at greatest
        exact ⟨Nat.le_trans (by decide) least, greatest⟩
    · decide
  simp [Text.isBlank, Text.isWhiteSpace, Text.whiteSpaceRanges]
  omega

section Symbols

variable {name : String} {rest : List Char} {symbol : Symbol}

/-- Only characters of names occur in a name. -/
theorem IsName.not_mem
    (isName : IsName name)
    {character : Char}
    (noName : isNameRest character = false) :
    character ∉ name.toList := by
  obtain ⟨first, others, same, isStart, isRest⟩ := isName
  rw [same, List.mem_cons]
  rintro (rfl | member)
  · rw [isNameRest_of_isNameStart isStart] at noName
    cases noName
  · rw [isRest character member] at noName
    cases noName

/-- A name is matched up to the first character that is none of a name. -/
theorem symbolLength?_name
    (isName : IsName name)
    (ends : ∀ character ∈ rest.head?, isNameRest character = false) :
    symbolLength? (name.toList ++ rest) = some name.toList.length := by
  obtain ⟨first, others, same, isStart, isRest⟩ := isName
  have noQuote : first ≠ '\'' := by
    rintro rfl
    exact absurd isStart (by decide)
  have stops : rest.takeWhile isNameRest = [] := by
    cases rest with
    | nil => rfl
    | cons next later => rw [List.takeWhile_cons, ends next rfl]; rfl
  rw [same, List.cons_append, symbolLength?, if_neg noQuote, if_pos isStart,
    List.takeWhile_append_of_pos isRest, stops, List.append_nil, List.length_cons]

/-- A quoted text is matched up to its second apostrophe. -/
theorem symbolLength?_quoted
    {quoted : List Char}
    (noApostrophe : '\'' ∉ quoted) :
    symbolLength? ('\'' :: (quoted ++ '\'' :: rest)) = some (quoted.length + 2) := by
  have isClosed : (quoted ++ '\'' :: rest).contains '\'' = true := by simp
  have inside : ∀ character ∈ quoted, decide (character ≠ '\'') = true := by
    intro character member
    exact decide_eq_true fun same => noApostrophe (same ▸ member)
  rw [symbolLength?, if_pos rfl, if_pos isClosed, List.takeWhile_append_of_pos inside]
  simp

/-- Blanks do not count. -/
theorem symbols_blank : symbols (' ' :: rest) = symbols rest := by
  have miss : ¬ actionBlock <+: ' ' :: rest :=
    fun hit => absurd (List.cons_prefix_cons.1 hit).1 (by decide)
  rw [symbols, Text.erase_cons miss]
  exact Text.countMatches_cons rfl

/-- What stands behind a symbol does not lengthen it. -/
def Follows (rest : List Char) : Prop :=
  rest = [] ∨ ∃ others, rest = ' ' :: others

/-- Erasing action blocks keeps a text apart from the symbol in front of it. -/
theorem Follows.isNameRest_head_erase (follows : Follows rest) :
    ∀ character ∈ (Text.erase actionBlock rest).head?, isNameRest character = false := by
  rcases follows with rfl | ⟨others, rfl⟩
  · intro character isHead
    cases isHead
  · have miss : ¬ actionBlock <+: ' ' :: others :=
      fun hit => absurd (List.cons_prefix_cons.1 hit).1 (by decide)
    rw [Text.erase_cons miss]
    rintro character ⟨⟩
    decide

/-- A readable symbol in front counts as one. -/
theorem symbols_append_symbol
    (readable : IsReadable symbol)
    (follows : Follows rest) :
    symbols (symbol.text.toList ++ rest) = symbols rest + 1 := by
  cases symbol with
  | nonterminal name =>
      have isName : IsName name := readable
      have noBrace : '\x7b' ∉ name.toList := isName.not_mem (by decide)
      have nonempty : name.toList ≠ [] := by
        obtain ⟨first, others, same, -⟩ := isName
        exact same ▸ List.cons_ne_nil _ _
      change symbols (name.toList ++ rest) = _
      rw [symbols, actionBlock, Text.erase_append noBrace]
      exact Text.countMatches_append nonempty
        (symbolLength?_name isName follows.isNameRest_head_erase)
  | terminal name =>
      have quotable : IsQuotable name := readable
      have isText : (Symbol.terminal name).text.toList ++ rest =
          [] ++ '\'' :: (name.toList ++ '\'' :: rest) := by
        simp [Symbol.text]
      have noPiece : '\'' ∉ actionBlock := by decide
      have nonempty : actionBlock ≠ [] := List.cons_ne_nil _ _
      have noApostrophe : '\'' ∉ Text.erase actionBlock name.toList :=
        fun member => quotable.noApostrophe ((Text.erase_sublist nonempty _).subset member)
      rw [isText, symbols, Text.erase_append_cons nonempty noPiece,
        Text.erase_append_cons nonempty noPiece]
      have whole : Text.erase actionBlock [] ++
          '\'' :: (Text.erase actionBlock name.toList ++
            '\'' :: Text.erase actionBlock rest) =
          ('\'' :: (Text.erase actionBlock name.toList ++ ['\''])) ++
            Text.erase actionBlock rest := by
        simp [Text.erase, Text.splitOn, Text.splitOnFrom]
      rw [whole]
      refine Text.countMatches_append (List.cons_ne_nil _ _) ?_
      simpa using symbolLength?_quoted noApostrophe

/-- Readable symbols with blanks between them count one each. -/
theorem symbols_append_alternative
    {alternative : Alternative}
    (readable : ∀ symbol ∈ alternative.symbols, IsReadable symbol)
    (follows : Follows rest) :
    symbols (alternative.text.toList ++ rest) = symbols rest + alternative.length := by
  obtain ⟨listed⟩ := alternative
  rw [Alternative.text, String.toList_intercalate, Alternative.length]
  change ∀ symbol ∈ listed, IsReadable symbol at readable
  change symbols ([' '].intercalate _ ++ rest) = symbols rest + listed.length
  induction listed with
  | nil => rfl
  | cons symbol others inductionHypothesis =>
      have isSymbol := readable symbol List.mem_cons_self
      have later := inductionHypothesis fun other member =>
        readable other (List.mem_cons_of_mem _ member)
      cases others with
      | nil => simpa using symbols_append_symbol isSymbol follows
      | cons other others =>
          simp only [List.map_cons, List.intercalate_cons_cons, List.append_assoc,
            List.cons_append, List.nil_append] at later ⊢
          rw [symbols_append_symbol isSymbol (.inr ⟨_, rfl⟩), symbols_blank, later]
          rfl

/-- What holds of blanks and readable symbols, and is kept by appending, holds of alternatives. -/
theorem alternative_induction
    (property : List Char → Prop)
    (nil : property [])
    (append : ∀ {first second}, property first → property second → property (first ++ second))
    (blank : property [' '])
    (isSymbol : ∀ symbol, IsReadable symbol → property symbol.text.toList)
    {alternative : Alternative}
    (readable : ∀ symbol ∈ alternative.symbols, IsReadable symbol) :
    property alternative.text.toList := by
  rw [Alternative.text, String.toList_intercalate]
  refine Text.intercalate_induction property nil append blank fun text member => ?_
  rw [List.map_map, List.mem_map] at member
  obtain ⟨symbol, isListed, rfl⟩ := member
  exact isSymbol symbol (readable symbol isListed)

/-- No bar is in a readable alternative. -/
theorem bar_not_mem
    {alternative : Alternative}
    (readable : ∀ symbol ∈ alternative.symbols, IsReadable symbol) :
    '|' ∉ alternative.text.toList := by
  refine alternative_induction ('|' ∉ ·) List.not_mem_nil ?_ (by decide) ?_ readable
  · intro first second notFirst notSecond member
    exact (List.mem_append.1 member).elim notFirst notSecond
  · intro symbol isReadable
    cases symbol with
    | nonterminal name => exact IsName.not_mem isReadable (by decide)
    | terminal name => simpa [Symbol.text] using IsQuotable.noBar isReadable

/-- Two characters that do not meet in a terminal do not meet in an alternative. -/
theorem joinable_alternative
    {alternative : Alternative}
    (readable : ∀ symbol ∈ alternative.symbols, IsReadable symbol)
    {left right : Char}
    (isMark : '\'' ≠ left ∧ '\'' ≠ right ∧ ' ' ≠ right ∧ isNameRest right = false)
    (apart : ∀ name, IsQuotable name → Text.Apart left right name.toList) :
    Text.Joinable left right alternative.text.toList := by
  obtain ⟨notLeft, notRight, noBlank, noName⟩ := isMark
  refine alternative_induction _ Text.joinable_nil Text.Joinable.append
    (Text.joinable_of_not_mem fun member => noBlank (List.mem_singleton.1 member).symm)
    ?_ readable
  intro symbol isReadable
  cases symbol with
  | nonterminal name => exact Text.joinable_of_not_mem (IsName.not_mem isReadable noName)
  | terminal name =>
      have apostrophe : Text.Joinable left right ['\''] :=
        Text.joinable_of_not_mem fun member => notRight (List.mem_singleton.1 member).symm
      -- The apostrophe in front is not the first character of a mark.
      have opened : Text.Joinable left right ('\'' :: name.toList) := by
        refine ⟨List.isChain_cons.2 ⟨?_, apart name isReadable⟩, ?_⟩
        · rintro _ - ⟨isLeft, -⟩
          exact notLeft isLeft
        · exact fun same => notRight (Option.some.inj same)
      have isText : (Symbol.terminal name).text.toList =
          '\'' :: name.toList ++ ['\''] := by
        simp [Symbol.text]
      rw [isText]
      exact opened.append apostrophe

/-- The characters that the written form of a symbol can start with. -/
def IsStart (character : Char) : Prop :=
  isNameStart character = true ∨ character = '\''

/-- No blank character starts a symbol. -/
theorem IsStart.not_isBlank
    {character : Char}
    (isStart : IsStart character) :
    Text.isBlank character = false := by
  rcases isStart with startsName | rfl
  · exact not_isBlank_of_isNameStart startsName
  · decide

/-- A symbol is not written as nothing. -/
theorem symbol_starts
    (separable : IsSeparable symbol) :
    ∃ first rest, symbol.text.toList = first :: rest ∧ IsStart first := by
  cases symbol with
  | terminal name => exact ⟨'\'', name.toList ++ ['\''], by simp [Symbol.text], .inr rfl⟩
  | nonterminal name =>
      obtain ⟨first, rest, same, startsName, -⟩ := separable
      exact ⟨first, rest, same, .inl startsName⟩

/-- An alternative with symbols starts like a symbol. -/
theorem alternative_starts
    {alternative : Alternative}
    (separable : ∀ symbol ∈ alternative.symbols, IsSeparable symbol)
    (nonempty : alternative.symbols ≠ []) :
    ∃ first rest, alternative.text.toList = first :: rest ∧ IsStart first := by
  obtain ⟨listed⟩ := alternative
  obtain ⟨symbol, others, rfl⟩ := List.exists_cons_of_ne_nil nonempty
  obtain ⟨first, rest, same, isStart⟩ := symbol_starts (separable symbol List.mem_cons_self)
  rw [Alternative.text, String.toList_intercalate]
  cases others with
  | nil => exact ⟨first, rest, by simp [same], isStart⟩
  | cons other others =>
      exact ⟨first, _, by
        simp only [List.map_cons, List.intercalate_cons_cons, same, List.cons_append]; rfl,
        isStart⟩

end Symbols

end Recount

end GrammarCorpus
