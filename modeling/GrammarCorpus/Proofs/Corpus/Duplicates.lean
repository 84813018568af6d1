import GrammarCorpus.Proofs.Corpus.Report
import GrammarCorpus.Proofs.Unambiguity

namespace GrammarCorpus

/-!
# Duplicates that are found by text

What is compared by text is compared by what it is: a fresh alternative is one that its rule
has not, and a survey counts as many different grammars as there are among those whose
canonical renderings it has read. It reads a rendering from a file as it was written if no
carriage return is in it, and if a shape can be counted from it.
-/

namespace Generator

/-- An alternative is fresh if it is none of those taken, and not vacuous. -/
theorem isFresh_iff
    {sole : Bool}
    {taken : List Alternative}
    {drawn : Alternative}
    (areTaken : ∀ alternative ∈ taken, alternative.IsSeparable)
    (isDrawn : drawn.IsSeparable) :
    isFresh sole taken drawn = true ↔ (sole = true → drawn.symbols ≠ []) ∧ drawn ∉ taken := by
  have vacuous : (!(sole && drawn.isEmpty)) = true ↔ (sole = true → drawn.symbols ≠ []) := by
    cases sole <;> simp [Alternative.isEmpty]
  have written : (!(taken.map Alternative.text).contains drawn.text) = true ↔ drawn ∉ taken := by
    rw [Bool.not_eq_true', ← Bool.not_eq_true, List.contains_iff_mem, List.mem_map]
    refine not_congr ⟨?_, fun member => ⟨drawn, member, rfl⟩⟩
    rintro ⟨alternative, member, same⟩
    rwa [← (Alternative.text_eq_iff (areTaken alternative member) isDrawn).1 same]
  rw [isFresh, Bool.and_eq_true, vacuous, written]

end Generator

namespace Survey

section Files

variable {tree : FileTree} {location : Location} {content : ByteArray} {text : String}
variable (holds : tree.find? location = some (.file content))
variable (decoded : Text.decode? content = some text)
variable (corpusClass : CorpusClass) (size : Int) (path : Path)

include holds decoded

/-- A text from which a shape can be counted is found as it has been read. -/
theorem lookAtFile_of_counted {shape : Shape} (counted : Shape.recount text = .ok shape) :
    lookAtFile tree corpusClass size path location =
      .grammar { corpusClass, size, text, shape } := by
  have read : tree.readFile location = .ok content := by
    rw [FileTree.readFile, holds]
  simp only [lookAtFile, read, decoded, counted, Except.toOption, Option.bind_eq_bind,
    Option.bind_some, Option.pure_def]

/-- A text from which no shape can be counted is unreadable. -/
theorem lookAtFile_of_uncounted
    {error : RecountError}
    (refused : Shape.recount text = .error error) :
    lookAtFile tree corpusClass size path location = .unreadable path := by
  have read : tree.readFile location = .ok content := by
    rw [FileTree.readFile, holds]
  simp only [lookAtFile, read, decoded, refused, Except.toOption, Option.bind_eq_bind,
    Option.bind_some, Option.bind_none]

end Files

/-- Keys that tell items apart are as many as the items. -/
theorem length_eraseDups_map
    {α β : Type}
    [DecidableEq α]
    [DecidableEq β]
    {key : α → β}
    {items : List α}
    (apart : ∀ item ∈ items, ∀ other ∈ items, key item = key other → item = other) :
    (items.map key).eraseDups.length = items.eraseDups.length := by
  have keys : (items.map key).toFinset = items.toFinset.image key := by
    ext found
    simp
  rw [length_eraseDups, length_eraseDups, keys]
  refine Finset.card_image_of_injOn fun item isItem other isOther => ?_
  exact apart item (List.mem_toFinset.1 isItem) other (List.mem_toFinset.1 isOther)

/-- Of the grammars whose renderings were read, different ones are counted as different. -/
theorem unique_eq
    {survey : Survey}
    {grammars : List Grammar}
    (separable : ∀ grammar ∈ grammars, grammar.IsSeparable)
    (rendered : survey.grammars.map (fun stored => some stored.text) =
      grammars.map Grammar.canonical?) :
    survey.unique = grammars.eraseDups.length ∧
      survey.duplicates = grammars.length - grammars.eraseDups.length := by
  have texts : (survey.grammars.map StoredGrammar.text).map some =
      grammars.map Grammar.canonical? := by
    rw [List.map_map]
    exact rendered
  have unique : survey.unique = grammars.eraseDups.length := by
    unfold Survey.unique
    rw [← length_eraseDups_map fun text _ other _ same => Option.some.inj same, texts]
    refine length_eraseDups_map fun first isFirst second isSecond same => ?_
    have together :=
      Grammar.renderings_tfae (separable first isFirst) (separable second isSecond)
    exact (together.out 0 1).2 same
  have number : survey.grammars.length = grammars.length := by
    have lengths := congrArg List.length rendered
    rwa [List.length_map, List.length_map] at lengths
  have all : survey.unique + survey.duplicates = survey.grammars.length := unique_add_duplicates
  exact ⟨unique, by omega⟩

end Survey

/--
Grammars that show their parts are the same if any of their three renderings is, and
alternatives are if their texts are. So an alternative is refused as taken exactly if its rule
has it. A survey counts a rendering that it reads from a file, without carriage returns in it,
as the text that it is, unless no shape can be counted from it; and of the grammars whose
renderings it counts it finds as many duplicates as there are repetitions.
-/
theorem Grammar.renderings_identify :
    (∀ first second : Grammar, first.IsSeparable → second.IsSeparable →
      [first = second,
        first.canonical? = second.canonical?,
        first.bison? = second.bison?,
        first.grmtools? = second.grmtools?].TFAE) ∧
    (∀ first second : Alternative, first.IsSeparable → second.IsSeparable →
      (first.text = second.text ↔ first = second)) ∧
    (∀ sole taken drawn,
      (∀ alternative ∈ taken, alternative.IsSeparable) → drawn.IsSeparable →
        (Generator.isFresh sole taken drawn = true ↔
          (sole = true → drawn.symbols ≠ []) ∧ drawn ∉ taken)) ∧
    (∀ (tree : FileTree) location (grammar : Grammar) text,
      grammar.canonical? = some text → '\r' ∉ text.toList →
      tree.find? location = some (.file text.toUTF8) →
        ∀ corpusClass size path,
          (∀ shape, Shape.recount text = .ok shape →
            Survey.lookAtFile tree corpusClass size path location =
              .grammar { corpusClass, size, text, shape }) ∧
          (∀ error, Shape.recount text = .error error →
            Survey.lookAtFile tree corpusClass size path location = .unreadable path)) ∧
    ∀ (survey : Survey) (grammars : List Grammar),
      (∀ grammar ∈ grammars, grammar.IsSeparable) →
      survey.grammars.map (fun stored => some stored.text) =
        grammars.map Grammar.canonical? →
        survey.unique = grammars.eraseDups.length ∧
          survey.duplicates = grammars.length - grammars.eraseDups.length := by
  refine ⟨fun _ _ => Grammar.renderings_tfae, fun _ _ => Alternative.text_eq_iff,
    fun _ _ _ => Generator.isFresh_iff, ?_, fun _ _ => Survey.unique_eq⟩
  intro tree location grammar text _ noReturn holds corpusClass size path
  have decoded : Text.decode? text.toUTF8 = some text := Text.decode?_toUTF8 noReturn
  exact ⟨fun _ => Survey.lookAtFile_of_counted holds decoded corpusClass size path,
    fun _ => Survey.lookAtFile_of_uncounted holds decoded corpusClass size path⟩

namespace Survey

/-- A corpus of two grammars for LR(1), both of size one. -/
def pair (first second : ByteArray) : FileTree where
  entries := [
    (["lr1"], .directory),
    (["1", "lr1"], .directory),
    (["a", "1", "lr1"], .file first),
    (["b", "1", "lr1"], .file second)]

/-- A survey of such a corpus looks at both files. -/
theorem perform_ofDirectory_pair
    {first second : ByteArray}
    {atFirst atSecond : Finding}
    (looksAtFirst : lookAtFile (pair first second) .lr1 1 ⟨.relative, ["lr1", "1", "a"]⟩
      ["a", "1", "lr1"] = atFirst)
    (looksAtSecond : lookAtFile (pair first second) .lr1 1 ⟨.relative, ["lr1", "1", "b"]⟩
      ["b", "1", "lr1"] = atSecond) :
    ((ofDirectory ⟨.relative, []⟩).run.perform .calm { tree := pair first second }).1 = .ok {
      grammars := [atFirst, atSecond].filterMap Finding.grammar?
      unreadable := [atFirst, atSecond].filterMap Finding.unreadable? } := by
  subst looksAtFirst looksAtSecond
  have sizes : sortedNames (pair first second) ["lr1"] = ["1"] :=
    List.mergeSort_singleton _
  have names : sortedNames (pair first second) ["1", "lr1"] = ["a", "b"] :=
    List.mergeSort_of_pairwise (show ["a", "b"].Pairwise _ by decide)
  have size : Text.integer? "1" = some 1 := by decide +kernel
  have looks : ∀ corpusClass,
      (lookAtClass ⟨.relative, []⟩ corpusClass).run.perform .calm { tree := pair first second } =
        (.ok (atPlace (pair first second) ⟨.relative, []⟩ corpusClass [corpusClass.text]),
          { tree := pair first second }) := by
    intro corpusClass
    refine perform_lookAtClass_of_short ?_ ?_ ?_
    · cases corpusClass <;> decide
    · cases corpusClass <;> rfl
    · -- All that is looked up is the one size for LR(1), and the two files in it.
      have isSize : (pair first second).isDirectory ["1", "lr1"] = true := rfl
      have others : ∀ corpusClass ≠ CorpusClass.lr1,
          sortedNames (pair first second) [corpusClass.text] = [] := by
        intro corpusClass differs
        cases corpusClass with
        | lr1 => exact absurd rfl differs
        | _ => exact List.mergeSort_nil
      intro path member
      by_cases isClass : corpusClass = .lr1
      · subst isClass
        rw [lookedUp, show CorpusClass.lr1.text = "lr1" from rfl, sizes, List.flatMap_singleton]
          at member
        simp only [isSize, size, names, Option.isSome_some, Bool.and_self, if_true] at member
        revert path
        decide
      · rw [lookedUp, others corpusClass isClass] at member
        cases member
  have lr1 : atPlace (pair first second) ⟨.relative, []⟩ .lr1 ["lr1"] =
      [lookAtFile (pair first second) .lr1 1 ⟨.relative, ["lr1", "1", "a"]⟩ ["a", "1", "lr1"],
        lookAtFile (pair first second) .lr1 1 ⟨.relative, ["lr1", "1", "b"]⟩
          ["b", "1", "lr1"]] := by
    have isClass : (pair first second).isDirectory ["lr1"] = true := rfl
    have isSize : (pair first second).isDirectory ["1", "lr1"] = true := rfl
    rw [atPlace, if_pos isClass, sizes, List.flatMap_singleton, lookAtSize, if_pos isSize, size]
    simp only [names]
    rfl
  -- There are no directories for the other classes.
  have found : (CorpusClass.all.flatMap fun corpusClass =>
      atPlace (pair first second) ⟨.relative, []⟩ corpusClass [corpusClass.text]) =
        atPlace (pair first second) ⟨.relative, []⟩ .lr1 ["lr1"] :=
    List.append_nil _
  rw [perform_ofDirectory looks, found, lr1]

/-- The canonical text of a grammar with one rule, for one quoted token. -/
def quoting (name : String) : String :=
  "%start root\n\n%%\n\nroot: '" ++ name ++ "'\n;\n\n%%\n"

end Survey

namespace Grammar

/-- A grammar with one rule, for one quoted token. -/
def quoting (name : String) : Grammar where
  rules := [⟨"root", [⟨[.terminal name]⟩]⟩]

/--
A carriage return and a line feed between apostrophes are two grammars that a survey counts as
one text. Where a line feed and a semicolon stand between them, it misses that there are two
copies, as it can read neither.
-/
theorem survey_misses_copies :
    (∀ name ∈ ["\r", "\n", "\n;"], (quoting name).IsSeparable ∧
      (quoting name).canonical? = some (Survey.quoting name)) ∧
    quoting "\r" ≠ quoting "\n" ∧
    (∃ survey,
      ((Survey.ofDirectory ⟨.relative, []⟩).run.perform .calm
        { tree := Survey.pair (Survey.quoting "\r").toUTF8 (Survey.quoting "\n").toUTF8 }).1 =
          .ok survey ∧
        survey.unique = 1 ∧ survey.duplicates = 1 ∧ survey.unreadable = []) ∧
    ∃ survey,
      ((Survey.ofDirectory ⟨.relative, []⟩).run.perform .calm
        { tree := Survey.pair (Survey.quoting "\n;").toUTF8 (Survey.quoting "\n;").toUTF8 }).1 =
          .ok survey ∧
        survey.duplicates = 0 ∧ survey.unreadable.length = 2 := by
  refine ⟨by decide +kernel, by decide, ?_, ?_⟩
  · have fed : Text.decode? (Survey.quoting "\n").toUTF8 = some (Survey.quoting "\n") :=
      Text.decode?_toUTF8 (by decide +kernel)
    have returned : Text.decode? (Survey.quoting "\r").toUTF8 = some (Survey.quoting "\n") := by
      rw [Text.decode?_toUTF8_eq]
      decide +kernel
    have counted : Shape.recount (Survey.quoting "\n") =
        .ok { rules := 1, alternatives := 1, symbols := 1 } := by
      decide +kernel
    exact ⟨_, Survey.perform_ofDirectory_pair
      (Survey.lookAtFile_of_counted rfl returned _ _ _ counted)
      (Survey.lookAtFile_of_counted rfl fed _ _ _ counted), by decide +kernel⟩
  · have decoded : Text.decode? (Survey.quoting "\n;").toUTF8 = some (Survey.quoting "\n;") :=
      Text.decode?_toUTF8 (by decide +kernel)
    have refused : Shape.recount (Survey.quoting "\n;") = .error .noColon := by
      decide +kernel
    exact ⟨_, Survey.perform_ofDirectory_pair
      (Survey.lookAtFile_of_uncounted rfl decoded _ _ _ refused)
      (Survey.lookAtFile_of_uncounted rfl decoded _ _ _ refused), rfl, rfl⟩

/--
Marks of all kinds between apostrophes, alternatives without symbols, and a corpus that holds
two copies of one grammar.
-/
theorem renderings_identify_of_marks :
    let first : Grammar := { rules := [
      ⟨"_0", [⟨[.terminal "\n;", .nonterminal "a1", .terminal "%% | ;"]⟩, ⟨[]⟩]⟩,
      ⟨"a1", [⟨[.terminal " \x7b \x7d", .terminal ""]⟩]⟩] }
    let second : Grammar := { rules := [
      ⟨"_0", [⟨[.terminal "\n;", .nonterminal "a1", .terminal "%% "]⟩,
        ⟨[.terminal ";"]⟩, ⟨[]⟩]⟩,
      ⟨"a1", [⟨[.terminal " \x7b \x7d", .terminal ""]⟩]⟩] }
    let taken : List Alternative := [⟨[.terminal "a b"]⟩, ⟨[]⟩]
    let drawn : Alternative := ⟨[.terminal "a", .nonterminal "b"]⟩
    let text := Survey.quoting "a"
    let shape : Shape := { rules := 1, alternatives := 1, symbols := 1 }
    let stored : StoredGrammar := { corpusClass := .lr1, size := 1, text, shape }
    first.IsSeparable ∧ second.IsSeparable ∧
      first.canonical? ≠ second.canonical? ∧
      first.bison? ≠ second.bison? ∧
      first.grmtools? ≠ second.grmtools? ∧
      Generator.isFresh false taken drawn = true ∧
      (drawn.text = (⟨[.terminal "a", .nonterminal "b"]⟩ : Alternative).text) ∧
      Survey.lookAtFile (Survey.pair text.toUTF8 text.toUTF8) .lr1 1 ⟨.relative, []⟩
        ["a", "1", "lr1"] = .grammar stored ∧
      (Survey.mk [stored, stored] []).unique = 1 ∧
      (Survey.mk [stored, stored] []).duplicates = 1 := by
  intro first second taken drawn text shape stored
  obtain ⟨identifies, writes, fresh, finds, counts⟩ := renderings_identify
  have isFirst : first.IsSeparable := by decide +kernel
  have isSecond : second.IsSeparable := by decide +kernel
  have different : first ≠ second := by decide +kernel
  have tfae := identifies first second isFirst isSecond
  have isDrawn : drawn.IsSeparable := by decide +kernel
  refine ⟨isFirst, isSecond, fun same => different ((tfae.out 0 1).2 same),
    fun same => different ((tfae.out 0 2).2 same), fun same => different ((tfae.out 0 3).2 same),
    (fresh false taken drawn (by decide +kernel) isDrawn).2 (by decide),
    (writes drawn _ isDrawn isDrawn).2 rfl, ?_, ?_⟩
  · exact (finds (Survey.pair text.toUTF8 text.toUTF8) ["a", "1", "lr1"] (quoting "a") text
      (by decide +kernel) (by decide +kernel) rfl .lr1 1 ⟨.relative, []⟩).1 shape
      (by decide +kernel)
  · exact counts (Survey.mk [stored, stored] []) [quoting "a", quoting "a"] (by decide +kernel)
      (by decide +kernel)

end Grammar

end GrammarCorpus
