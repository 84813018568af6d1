import GrammarCorpus.Proofs.Corpus.Survey

namespace GrammarCorpus

/-!
# What a survey visits

A survey visits the directories for the sizes and the entries in them, each once. It says one
thing about each visit: a file whose text can be counted is a grammar, everything else is
unreadable. What there is to visit, and what is said about it, are told from the tree alone.
-/

open FileTree Work List

section Countable

namespace Text

variable {separator characters : List Char}

/-- Where a separator occurs, there is a second piece. -/
theorem exists_splitOn_of_infix
    (nonempty : separator ≠ [])
    (occurs : separator <:+: characters) :
    ∃ first second rest, splitOn separator characters = first :: second :: rest := by
  induction characters with
  | nil => exact absurd (List.infix_nil.1 occurs) nonempty
  | cons character others inductionHypothesis =>
      by_cases front : separator <+: character :: others
      · obtain ⟨behind, whole⟩ := front
        obtain ⟨second, rest, pieces⟩ := exists_splitOn separator behind
        exact ⟨[], second, rest, by rw [← whole, splitOn_of_front nonempty, pieces]⟩
      · have later : separator <:+: others := (List.infix_cons_iff.1 occurs).resolve_left front
        obtain ⟨first, second, rest, pieces⟩ := inductionHypothesis later
        exact ⟨character :: first, second, rest, by rw [splitOn_cons front, pieces]; rfl⟩

/-- A text has a side behind a mark if it has the mark. -/
theorem partition?_isSome {mark : Char} : (partition? mark characters).isSome = true ↔
    mark ∈ characters := by
  induction characters with
  | nil => simp [partition?]
  | cons character others inductionHypothesis =>
      by_cases same : character = mark
      · simp [partition?, same]
      · rw [partition?, if_neg same, Option.isSome_map, inductionHypothesis, List.mem_cons,
          or_iff_right (Ne.symm same)]

end Text

namespace Shape

/-- The text between the first section mark and the next one, or the end. -/
def section? (text : String) : Option (List Char) :=
  (Text.splitOn ['%', '%'] text.toList)[1]?

/--
A text has a section mark, and in the section behind it every chunk that is not blank has a
colon.
-/
def IsCountable (text : String) : Prop :=
  ['%', '%'] <:+: text.toList ∧
    ∀ body, section? text = some body → ∀ chunk ∈ Text.splitOn ['\n', ';'] body,
      chunk.all Text.isBlank = false → ':' ∈ chunk

/-- The rules in some chunks can be counted if all that are not blank have a colon. -/
theorem exists_rules {chunks : List (List Char)} :
    (∃ shape, Recount.rules chunks = .ok shape) ↔
      ∀ chunk ∈ chunks, chunk.all Text.isBlank = false → ':' ∈ chunk := by
  induction chunks with
  | nil => simp [Recount.rules]
  | cons chunk others inductionHypothesis =>
      rw [List.forall_mem_cons, ← inductionHypothesis, Recount.rules]
      cases blank : chunk.all Text.isBlank with
      | true => simp
      | false =>
          have parted : (∃ shape, Recount.rule chunk = .ok shape) ↔ ':' ∈ chunk := by
            rw [← Text.partition?_isSome, Recount.rule]
            cases Text.partition? ':' chunk <;> simp
          rw [← parted]
          cases Recount.rule chunk with
          | error failure => simp [bind, Except.bind]
          | ok first =>
              cases Recount.rules others with
              | error failure => simp [bind, Except.bind]
              | ok rest => simp [bind, Except.bind, pure, Except.pure]

/-- A shape is counted from a text exactly if the text can be counted. -/
theorem exists_recount_iff {text : String} :
    (∃ shape, recount text = .ok shape) ↔ IsCountable text := by
  unfold IsCountable section? recount
  by_cases occurs : ['%', '%'] <:+: text.toList
  · obtain ⟨first, body, rest, pieces⟩ :=
      Text.exists_splitOn_of_infix (List.cons_ne_nil _ _) occurs
    rw [pieces]
    simp [occurs, exists_rules]
  · rw [Text.splitOn_of_absent occurs]
    simp [occurs]

end Shape

end Countable

instance (text : String) : Decidable (Shape.IsCountable text) :=
  decidable_of_iff ((Shape.recount text).toOption.isSome = true) <| by
    rw [← Shape.exists_recount_iff]
    cases Shape.recount text <;> simp [Except.toOption]

/-- What a survey says one thing about. -/
inductive Visit where
  /-- An entry of a directory whose name is an integer. -/
  | entry (corpusClass : CorpusClass) (folder : String) (size : Int) (name : String)
  /-- A directory whose name is no integer. -/
  | stray (corpusClass : CorpusClass) (name : String)
deriving DecidableEq, Repr

namespace Visit

/-- The class of a visit. -/
def corpusClass : Visit → CorpusClass
  | entry corpusClass .. => corpusClass
  | stray corpusClass _ => corpusClass

/-- The size that the name of the directory stands for. -/
def size? : Visit → Option Int
  | entry _ _ size _ => some size
  | stray .. => none

/-- The name of the directory that is visited, or in which the entry is. -/
def folder : Visit → String
  | entry _ folder .. => folder
  | stray _ name => name

/-- The names on the way from the directory for the class. -/
def way : Visit → List String
  | entry _ folder _ name => [folder, name]
  | stray _ name => [name]

/-- The path of a visit below a base directory. -/
def path (base : Path) (visit : Visit) : Path :=
  { base.child visit.corpusClass.text with
    parts := (base.child visit.corpusClass.text).parts ++ visit.way }

/-- What there is to visit in a directory for a class. -/
def IsAt (tree : FileTree) (location : Location) : Visit → Prop
  | entry _ folder size name =>
      tree.isDirectory (folder :: location) = true ∧ Text.integer? folder = some size ∧
        tree.contains (name :: folder :: location) = true
  | stray _ name => tree.isDirectory (name :: location) = true ∧ Text.integer? name = none

/-- What there is to visit, where the directories for the classes are in these places. -/
def IsIn (tree : FileTree) (place : CorpusClass → Option Location) (visit : Visit) : Prop :=
  ∃ location, place visit.corpusClass = some location ∧ visit.IsAt tree location

/-- The text of an entry that is a file of valid UTF-8. -/
def text? (tree : FileTree) (place : CorpusClass → Option Location) : Visit → Option String
  | entry corpusClass folder _ name => do
      let location ← place corpusClass
      let content ← (tree.readFile (name :: folder :: location)).toOption
      Text.decode? content
  | stray .. => none

/-- An entry is counted if it has a text and this can be counted. -/
def IsCounted (tree : FileTree) (place : CorpusClass → Option Location) (visit : Visit) : Prop :=
  ∃ text, visit.text? tree place = some text ∧ Shape.IsCountable text

/-- The grammar that an entry is counted as, under its class and the integer. -/
def stored? (tree : FileTree) (place : CorpusClass → Option Location) (visit : Visit) :
    Option StoredGrammar := do
  let size ← visit.size?
  let text ← visit.text? tree place
  let shape ← (Shape.recount text).toOption
  return { corpusClass := visit.corpusClass, size, text, shape }

/-- What is said about a visit. -/
def finding
    (tree : FileTree)
    (place : CorpusClass → Option Location)
    (base : Path)
    (visit : Visit) :
    Finding :=
  match visit.stored? tree place with
  | some stored => .grammar stored
  | none => .unreadable (visit.path base)

end Visit

namespace Survey

/-- Where the directory for a class is, if there is one that can be named. -/
def classPlace?
    (tree : FileTree)
    (directory : Location)
    (base : Path)
    (corpusClass : CorpusClass) :
    Option Location :=
  if FileWork.holdsNull (base.child corpusClass.text).text then
    none
  else
    (tree.endOf directory (base.child corpusClass.text)).toOption.filter tree.isDirectory

/-- The visits in one directory for a size, or that directory itself. -/
def visitsIn
    (tree : FileTree)
    (corpusClass : CorpusClass)
    (location : Location)
    (folder : String) :
    List Visit :=
  if tree.isDirectory (folder :: location) then
    match Text.integer? folder with
    | none => [.stray corpusClass folder]
    | some size => (sortedNames tree (folder :: location)).map (.entry corpusClass folder size)
  else
    []

/-- The visits in the directory for a class, in the order of a survey. -/
def visitsAt (tree : FileTree) (corpusClass : CorpusClass) (location : Location) : List Visit :=
  (sortedNames tree location).flatMap (visitsIn tree corpusClass location)

/-- All visits, in the order of a survey. -/
def visits (tree : FileTree) (place : CorpusClass → Option Location) : List Visit :=
  CorpusClass.all.flatMap fun corpusClass =>
    (place corpusClass).elim [] (visitsAt tree corpusClass)

end Survey

section Visits

variable {tree : FileTree} {place : CorpusClass → Option Location} {base : Path}
variable {visit other : Visit} {corpusClass : CorpusClass} {location : Location}

namespace Visit

/-- A visit is counted under its class and its size, with its text and the shape of that. -/
theorem stored?_eq_some {stored : StoredGrammar} :
    visit.stored? tree place = some stored ↔
      visit.corpusClass = stored.corpusClass ∧ visit.size? = some stored.size ∧
        visit.text? tree place = some stored.text ∧
        Shape.recount stored.text = .ok stored.shape := by
  have isOk : ∀ {text : String} {shape : Shape},
      (Shape.recount text).toOption = some shape ↔ Shape.recount text = .ok shape := by
    intro text shape
    cases Shape.recount text <;> simp [Except.toOption]
  obtain ⟨storedClass, storedSize, storedText, storedShape⟩ := stored
  simp only [stored?, Option.bind_eq_bind, Option.bind_eq_some_iff, Option.pure_def,
    Option.some.injEq, StoredGrammar.mk.injEq, isOk]
  constructor
  · rintro ⟨size, isSize, text, isText, shape, isShape, rfl, rfl, rfl, rfl⟩
    exact ⟨rfl, isSize, isText, isShape⟩
  · rintro ⟨isClass, isSize, isText, isShape⟩
    exact ⟨storedSize, isSize, storedText, isText, storedShape, isShape, isClass, rfl, rfl, rfl⟩

/-- What is counted is an entry whose text can be counted. -/
theorem stored?_isSome : (visit.stored? tree place).isSome = true ↔ visit.IsCounted tree place := by
  rw [Option.isSome_iff_exists]
  constructor
  · rintro ⟨stored, counted⟩
    obtain ⟨-, -, isText, isShape⟩ := stored?_eq_some.1 counted
    exact ⟨stored.text, isText, Shape.exists_recount_iff.1 ⟨_, isShape⟩⟩
  · rintro ⟨text, isText, countable⟩
    obtain ⟨shape, isShape⟩ := Shape.exists_recount_iff.2 countable
    cases visit with
    | stray corpusClass name => cases isText
    | entry corpusClass folder size name =>
        exact ⟨⟨corpusClass, size, text, shape⟩, stored?_eq_some.2 ⟨rfl, rfl, isText, isShape⟩⟩

/-- About an entry is said what is said about the file where it stands. -/
theorem finding_entry
    (stands : place corpusClass = some location)
    (folder : String)
    (size : Int)
    (name : String) :
    finding tree place base (entry corpusClass folder size name) =
      Survey.lookAtFile tree corpusClass size
        { base.child corpusClass.text with
          parts := ((base.child corpusClass.text).parts ++ [folder]) ++ [name] }
        (name :: folder :: location) := by
  have isPath : (entry corpusClass folder size name).path base =
      { base.child corpusClass.text with
        parts := ((base.child corpusClass.text).parts ++ [folder]) ++ [name] } := by
    simp [path, way, Visit.corpusClass]
  unfold finding Survey.lookAtFile stored? text?
  rw [isPath]
  simp only [size?, stands, Visit.corpusClass, Option.bind_eq_bind, Option.bind_some]
  cases (tree.readFile (name :: folder :: location)).toOption with
  | none => rfl
  | some content =>
      cases decoded : Text.decode? content with
      | none => simp [decoded]
      | some text => 
        simp only [Option.bind_some, decoded]
        cases (Shape.recount text).toOption <;> rfl

/-- Different visits have different paths. -/
theorem eq_of_path_eq
    (isIn : visit.IsIn tree place)
    (otherIsIn : other.IsIn tree place)
    (same : visit.path base = other.path base) :
    visit = other := by
  have ways : visit.corpusClass.text :: visit.way = other.corpusClass.text :: other.way := by
    have parts := congrArg Path.parts same
    simpa [path, Path.child_isName (CorpusClass.isName_text _)] using parts
  obtain ⟨sameClass, sameWay⟩ := List.cons.inj ways
  have sameClass := CorpusClass.text_injective sameClass
  cases visit with
  | stray corpusClass name =>
      cases other with
      | stray otherClass otherName => 
        cases sameClass
        cases sameWay
        rfl
      | entry otherClass otherFolder otherSize otherName => cases sameWay
  | entry corpusClass folder size name =>
      cases other with
      | stray otherClass otherName => cases sameWay
      | entry otherClass otherFolder otherSize otherName =>
        cases sameClass
        cases sameWay
        obtain ⟨_, -, -, isSize, -⟩ := isIn
        obtain ⟨_, -, -, isOtherSize, -⟩ := otherIsIn
        cases isSize.symm.trans isOtherSize
        rfl

end Visit

namespace Survey

/-- What is said at the place for a class is said about the visits there. -/
theorem atPlace_eq (stands : place corpusClass = some location) :
    atPlace tree base corpusClass location =
      if tree.isDirectory location then
        (visitsAt tree corpusClass location).map (Visit.finding tree place base)
      else
        [] := by
  unfold atPlace visitsAt
  rw [List.map_flatMap]
  refine congrArg (fun found => if tree.isDirectory location then found else []) ?_
  refine List.flatMap_congr fun folder _ => ?_
  cases isDirectory : tree.isDirectory (folder :: location) with
  | false =>
      simp only [lookAtSize, visitsIn, isDirectory, Bool.false_eq_true, if_false, List.map_nil]
  | true =>
      simp only [lookAtSize, visitsIn, isDirectory, if_true]
      cases Text.integer? folder with
      | none => rfl
      | some size =>
          simp only [List.map_map]
          exact List.map_congr_left fun name _ =>
            (Visit.finding_entry stands folder size name).symm

/-- The visits in a directory are those that there are with its name. -/
theorem mem_visitsIn {folder : String} : visit ∈ visitsIn tree corpusClass location folder ↔
    visit.corpusClass = corpusClass ∧ visit.folder = folder ∧ visit.IsAt tree location := by
  unfold visitsIn
  constructor
  · intro member
    split at member
    · rename_i isDirectory
      split at member
      · rename_i number
        obtain rfl := List.mem_singleton.1 member
        exact ⟨rfl, rfl, isDirectory, number⟩
      · rename_i size number
        obtain ⟨name, isName, rfl⟩ := List.mem_map.1 member
        exact ⟨rfl, rfl, isDirectory, number, mem_sortedNames.1 isName⟩
    · cases member
  · rintro ⟨rfl, rfl, isAt⟩
    cases visit with
    | stray corpusClass name =>
        obtain ⟨isDirectory, number⟩ := isAt
        rw [Visit.folder, if_pos isDirectory, number]
        exact List.mem_singleton_self _
    | entry corpusClass folder size name =>
        obtain ⟨isDirectory, number, holds⟩ := isAt
        rw [Visit.folder, if_pos isDirectory, number]
        exact List.mem_map_of_mem (mem_sortedNames.2 holds)

/-- The visits in the directory for a class are those that there are. -/
theorem mem_visitsAt : visit ∈ visitsAt tree corpusClass location ↔
    visit.corpusClass = corpusClass ∧ visit.IsAt tree location := by
  unfold visitsAt
  simp only [List.mem_flatMap, mem_visitsIn, mem_sortedNames]
  constructor
  · rintro ⟨_, -, isClass, -, isAt⟩
    exact ⟨isClass, isAt⟩
  · rintro ⟨isClass, isAt⟩
    refine ⟨visit.folder, ?_, isClass, rfl, isAt⟩
    cases visit with
    | stray corpusClass name => exact contains_of_isDirectory isAt.1
    | entry corpusClass folder size name => exact contains_of_isDirectory isAt.1

/-- The visits are those that there are in the tree. -/
theorem mem_visits : visit ∈ visits tree place ↔ visit.IsIn tree place := by
  have isClass : visit.corpusClass ∈ CorpusClass.all := by
    cases visit.corpusClass <;> decide
  unfold visits Visit.IsIn
  rw [List.mem_flatMap]
  constructor
  · rintro ⟨corpusClass, -, member⟩
    cases stands : place corpusClass with
    | none =>
        rw [stands] at member
        cases member
    | some location =>
        rw [stands] at member
        obtain ⟨rfl, isAt⟩ := mem_visitsAt.1 member
        exact ⟨location, stands, isAt⟩
  · rintro ⟨location, stands, isAt⟩
    refine ⟨visit.corpusClass, isClass, ?_⟩
    rw [stands]
    exact mem_visitsAt.2 ⟨rfl, isAt⟩

/-- In the directory for a class, nothing is visited twice. -/
theorem nodup_visitsAt
    (distinct : tree.Distinct)
    (corpusClass : CorpusClass)
    (location : Location) :
    (visitsAt tree corpusClass location).Nodup := by
  refine List.nodup_flatMap.2 ⟨fun folder _ => ?_, ?_⟩
  · unfold visitsIn
    split
    · split
      · exact List.nodup_singleton _
      · exact (nodup_sortedNames distinct _).map fun _ _ same => (Visit.entry.inj same).2.2.2
    · exact List.nodup_nil
  · refine (nodup_sortedNames distinct _).imp fun differ visit isFirst isSecond => ?_
    exact differ ((mem_visitsIn.1 isFirst).2.1.symm.trans (mem_visitsIn.1 isSecond).2.1)

/-- Nothing is visited twice. -/
theorem nodup_visits (distinct : tree.Distinct) : (visits tree place).Nodup := by
  have classes : CorpusClass.all.Nodup := by decide
  have inClass : ∀ {corpusClass : CorpusClass} {visit : Visit},
      visit ∈ (place corpusClass).elim [] (visitsAt tree corpusClass) →
        visit.corpusClass = corpusClass := by
    intro corpusClass visit member
    cases stands : place corpusClass with
    | none =>
        rw [stands] at member
        cases member
    | some location =>
        rw [stands] at member
        exact (mem_visitsAt.1 member).1
  refine List.nodup_flatMap.2 ⟨fun corpusClass _ => ?_, ?_⟩
  · cases place corpusClass with
    | none => exact List.nodup_nil
    | some location => exact nodup_visitsAt distinct corpusClass location
  · refine classes.imp fun differ visit isFirst isSecond => ?_
    exact differ ((inClass isFirst).symm.trans (inClass isSecond))

/-- All that is said is said about the visits. -/
def account (tree : FileTree) (place : CorpusClass → Option Location) (base : Path) : Survey where
  grammars := (visits tree place).filterMap (Visit.stored? tree place)
  unreadable := ((visits tree place).filter fun visit => (visit.stored? tree place).isNone).map
    (Visit.path base)

/-- What is said about the visits comes to their account. -/
theorem account_eq
    (tree : FileTree)
    (place : CorpusClass → Option Location)
    (base : Path) :
    let found := (visits tree place).map (Visit.finding tree place base)
    { grammars := found.filterMap Finding.grammar?
      unreadable := found.filterMap Finding.unreadable? } = account tree place base := by
  unfold account
  rw [Survey.mk.injEq, List.filterMap_map, List.filterMap_map]
  induction visits tree place with
  | nil => exact ⟨rfl, rfl⟩
  | cons visit others inductionHypothesis =>
      obtain ⟨grammars, unreadable⟩ := inductionHypothesis
      cases counted : visit.stored? tree place <;>
        simp [Visit.finding, counted, Finding.grammar?, Finding.unreadable?, ← grammars,
          ← unreadable, Function.comp_def]

end Survey

end Visits

end GrammarCorpus
