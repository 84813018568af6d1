import GrammarCorpus.Proofs.Corpus.Duplicates
import GrammarCorpus.Proofs.Corpus.Visits
import GrammarCorpus.Proofs.Files.Failing
import Mathlib.Algebra.BigOperators.Group.List.Lemmas
import Mathlib.Data.List.Sort

namespace GrammarCorpus

/-!
# What a survey accounts for

There is a survey of a corpus unless one of the paths that it looks up is too long. It is the
account of the visits: each entry is counted or listed, once, and all numbers of a survey are
numbers of visits.
-/

open FileTree Work List

namespace FileTree

variable {tree : FileTree} {directory : Location}

/-- A path that is not too long leads to its end. -/
theorem endOf_eq_resolve
    {path : Path}
    (named : tree.resolve directory path ≠ .error .nameTooLong) :
    tree.endOf directory path = tree.resolve directory path := by
  refine (resolve_eq_endOf (Nat.not_lt.1 fun long => named ?_)).symm
  rw [resolve, if_pos long]

end FileTree

namespace Survey

/-- All that is looked up for a class has a path that is short enough. -/
structure CanLookAt
    (tree : FileTree)
    (directory : Location)
    (base : Path)
    (corpusClass : CorpusClass) : Prop where
  itself : FileWork.holdsNull (base.child corpusClass.text).text = false →
    tree.resolve directory (base.child corpusClass.text) ≠ .error .nameTooLong
  names : ∀ location name, classPlace? tree directory base corpusClass = some location →
    tree.contains (name :: location) = true →
      isTooLong { base.child corpusClass.text with
        parts := (base.child corpusClass.text).parts ++ [name] } = false
  visits : ∀ visit : Visit, visit.corpusClass = corpusClass →
    visit.IsIn tree (classPlace? tree directory base) → isTooLong (visit.path base) = false

section Runs

variable {machine : Machine} {workspace : Workspace} {base : Path} {corpusClass : CorpusClass}
variable {tree : FileTree} {directory location : Location}

/-- Where a directory for a class is, a path is too long exactly if the survey finds it so. -/
theorem canLookAt_iff_tooLongAt?
    (named : tree.resolve directory (base.child corpusClass.text) ≠ .error .nameTooLong)
    (stands : classPlace? tree directory base corpusClass = some location)
    (isDirectory : tree.isDirectory location = true) :
    CanLookAt tree directory base corpusClass ↔
      tooLongAt? tree base corpusClass location = none := by
  rw [tooLongAt?, if_pos isDirectory, List.find?_eq_none]
  constructor
  · intro can path member
    rw [Bool.not_eq_true]
    obtain ⟨folder, isName, rfl | ⟨isFolder, isInteger, name, holds, rfl⟩⟩ :=
      mem_lookedUp.1 member
    · exact can.names location folder stands isName
    · obtain ⟨size, number⟩ := Option.isSome_iff_exists.1 isInteger
      exact can.visits (.entry corpusClass folder size name) rfl
        ⟨location, stands, isFolder, number, holds⟩
  · intro short
    have short : ∀ {path : Path}, path ∈ lookedUp tree (base.child corpusClass.text) location →
        isTooLong path = false := fun member => Bool.eq_false_iff.2 (short _ member)
    refine ⟨fun _ => named, ?_, ?_⟩
    · intro other name otherStands holds
      cases stands.symm.trans otherStands
      exact short (mem_lookedUp.2 ⟨name, holds, .inl rfl⟩)
    · rintro visit rfl ⟨other, otherStands, isAt⟩
      cases stands.symm.trans otherStands
      cases visit with
      | stray corpusClass name =>
          exact short (mem_lookedUp.2 ⟨name, contains_of_isDirectory isAt.1, .inl rfl⟩)
      | entry corpusClass folder size name =>
          obtain ⟨isFolder, number, holds⟩ := isAt
          exact short (mem_lookedUp.2 ⟨folder, contains_of_isDirectory isFolder,
            .inr ⟨isFolder, by rw [number]; rfl, name, holds, rfl⟩⟩)

/-- Where there is no directory for a class, only its own path is looked up. -/
theorem canLookAt_of_absent
    (named : FileWork.holdsNull (base.child corpusClass.text).text = false →
      tree.resolve directory (base.child corpusClass.text) ≠ .error .nameTooLong)
    (absent : classPlace? tree directory base corpusClass = none) :
    CanLookAt tree directory base corpusClass where
  itself := named
  names location name stands := by rw [absent] at stands; cases stands
  visits visit := by
    rintro rfl ⟨location, stands, -⟩
    rw [absent] at stands
    cases stands

/-- A class is looked at and its visits are found, unless one of its paths is too long. -/
def IsLookedAt
    (machine : Machine)
    (workspace : Workspace)
    (base : Path)
    (corpusClass : CorpusClass) : Prop :=
  let place := classPlace? workspace.tree machine.directory base
  let looked := (lookAtClass base corpusClass).run.perform machine workspace
  (CanLookAt workspace.tree machine.directory base corpusClass ∧
    looked = (.ok (((place corpusClass).elim [] (visitsAt workspace.tree corpusClass)).map
      (Visit.finding workspace.tree place base)), workspace)) ∨
  (¬ CanLookAt workspace.tree machine.directory base corpusClass ∧
    ∃ path, looked = (.error (.failed { cause := .nameTooLong, path }), workspace))

/-- Where the path of a class can be handed over, the class has the place that it ends at. -/
theorem classPlace?_of_handed
    (handed : FileWork.holdsNull (base.child corpusClass.text).text = false)
    (named : tree.resolve directory (base.child corpusClass.text) ≠ .error .nameTooLong) :
    classPlace? tree directory base corpusClass =
      (tree.resolve directory (base.child corpusClass.text)).toOption.filter tree.isDirectory := by
  simp only [classPlace?, handed, Bool.false_eq_true, if_false, endOf_eq_resolve named]

/-- A class whose path cannot be handed over has no visits. -/
theorem isLookedAt_of_null
    (null : FileWork.holdsNull (base.child corpusClass.text).text = true) :
    IsLookedAt machine workspace base corpusClass := by
  have absent : classPlace? workspace.tree machine.directory base corpusClass = none := by
    simp only [classPlace?, null, if_true]
  refine .inl ⟨canLookAt_of_absent (fun handed => ?_) absent, ?_⟩
  · rw [null] at handed
    cases handed
  · rw [absent]
    exact perform_lookAtClass_of_absent (.inl null)

/-- A class whose path leads nowhere has no visits, unless the path is too long. -/
theorem isLookedAt_of_error
    {cause : SystemError}
    (handed : FileWork.holdsNull (base.child corpusClass.text).text = false)
    (fails : workspace.tree.resolve machine.directory (base.child corpusClass.text) =
      .error cause) :
    IsLookedAt machine workspace base corpusClass := by
  by_cases long : cause = .nameTooLong
  · subst long
    exact .inr ⟨fun can => can.itself handed fails, _,
      perform_lookAtClass_of_error handed fails (by decide)⟩
  · have absence := (resolve_error_cases fails).resolve_right fun tooLong => long tooLong.1
    have named : workspace.tree.resolve machine.directory (base.child corpusClass.text) ≠
        .error .nameTooLong := by
      rw [fails]
      exact fun same => long (Except.error.inj same)
    have absent : classPlace? workspace.tree machine.directory base corpusClass = none := by
      rw [classPlace?_of_handed handed named, fails]
      rfl
    refine .inl ⟨canLookAt_of_absent (fun _ => named) absent, ?_⟩
    rw [absent]
    exact perform_lookAtClass_of_absent (.inr ⟨cause, fails, absence⟩)

/-- A directory for a class is looked at unless a path in it is too long. -/
theorem isLookedAt_of_resolve
    (handed : FileWork.holdsNull (base.child corpusClass.text).text = false)
    (leads : workspace.tree.resolve machine.directory (base.child corpusClass.text) =
      .ok location) :
    IsLookedAt machine workspace base corpusClass := by
  have named : workspace.tree.resolve machine.directory (base.child corpusClass.text) ≠
      .error .nameTooLong := by
    rw [leads]
    exact fun same => nomatch same
  have place_eq := classPlace?_of_handed handed named
  rw [leads] at place_eq
  have looked_eq := perform_lookAtClass_of_resolve handed leads
  cases isDirectory : workspace.tree.isDirectory location with
  | false =>
      have absent : classPlace? workspace.tree machine.directory base corpusClass = none := by
        rw [place_eq]
        simp [Except.toOption, isDirectory]
      refine .inl ⟨canLookAt_of_absent (fun _ => named) absent, looked_eq.trans ?_⟩
      rw [absent, tooLongAt?, atPlace, isDirectory]
      rfl
  | true =>
      have stands : classPlace? workspace.tree machine.directory base corpusClass =
          some location := by
        rw [place_eq]
        simp [Except.toOption, isDirectory]
      have can := canLookAt_iff_tooLongAt? named stands isDirectory
      cases long : tooLongAt? workspace.tree base corpusClass location with
      | none =>
          refine .inl ⟨can.2 long, looked_eq.trans ?_⟩
          rw [long, stands, atPlace_eq stands, if_pos isDirectory]
          rfl
      | some path =>
          refine .inr ⟨fun looks => ?_, path.text, looked_eq.trans (by rw [long])⟩
          rw [can.1 looks] at long
          cases long

/-- Whatever its path leads to, a class is looked at unless a path is too long. -/
theorem isLookedAt
    (machine : Machine)
    (workspace : Workspace)
    (base : Path)
    (corpusClass : CorpusClass) :
    IsLookedAt machine workspace base corpusClass := by
  cases handed : FileWork.holdsNull (base.child corpusClass.text).text with
  | true => exact isLookedAt_of_null handed
  | false =>
      cases leads : workspace.tree.resolve machine.directory (base.child corpusClass.text) with
      | error cause => exact isLookedAt_of_error handed leads
      | ok location => exact isLookedAt_of_resolve handed leads

/-- Looking at some classes fails if, and only if, it fails for one of them. -/
theorem perform_mapM_lookAtClass_cases
    (machine : Machine)
    (workspace : Workspace)
    (base : Path)
    (classes : List CorpusClass) :
    let place := classPlace? workspace.tree machine.directory base
    let looked := (classes.mapM (lookAtClass base)).run.perform machine workspace
    ((∀ corpusClass ∈ classes, CanLookAt workspace.tree machine.directory base corpusClass) ∧
      looked = (.ok (classes.map fun corpusClass =>
        ((place corpusClass).elim [] (visitsAt workspace.tree corpusClass)).map
          (Visit.finding workspace.tree place base)), workspace)) ∨
    ((∃ corpusClass ∈ classes,
        ¬ CanLookAt workspace.tree machine.directory base corpusClass) ∧
      ∃ path, looked = (.error (.failed { cause := .nameTooLong, path }), workspace)) := by
  intro place looked
  induction classes with
  | nil => exact .inl ⟨List.forall_mem_nil _, rfl⟩
  | cons corpusClass others inductionHypothesis =>
      have looked_eq : looked = (do
          let first ← lookAtClass base corpusClass
          let rest ← others.mapM (lookAtClass base)
          return first :: rest : FileWork _).run.perform machine workspace := by
        rw [← List.mapM_cons]
      rcases isLookedAt machine workspace base corpusClass with
        ⟨can, first⟩ | ⟨cannot, path, first⟩
      · rcases inductionHypothesis with ⟨canOthers, rest⟩ | ⟨⟨other, member, cannot⟩, path, rest⟩
        · refine .inl ⟨List.forall_mem_cons.2 ⟨can, canOthers⟩, ?_⟩
          simp only [looked_eq, perform_run_bind, first, rest, ExceptT.run_pure, perform_pure,
            List.map_cons]
          rfl
        · refine .inr ⟨⟨other, List.mem_cons_of_mem _ member, cannot⟩, path, ?_⟩
          simp only [looked_eq, perform_run_bind, first, rest]
      · refine .inr ⟨⟨corpusClass, List.mem_cons_self, cannot⟩, path, ?_⟩
        simp only [looked_eq, perform_run_bind, first]

/-- There is a survey unless a path is too long, and it is the account of the visits. -/
theorem perform_ofDirectory_cases
    (machine : Machine)
    (workspace : Workspace)
    (base : Path) :
    let place := classPlace? workspace.tree machine.directory base
    let ended := (ofDirectory base).run.perform machine workspace
    ((∀ corpusClass, CanLookAt workspace.tree machine.directory base corpusClass) ∧
      ended = (.ok (account workspace.tree place base), workspace)) ∨
    (¬ (∀ corpusClass, CanLookAt workspace.tree machine.directory base corpusClass) ∧
      ∃ path, ended = (.error (.failed { cause := .nameTooLong, path }), workspace)) := by
  intro place ended
  have ended_eq : ended = (do
      let found ← CorpusClass.all.mapM (lookAtClass base)
      return {
        grammars := found.flatten.filterMap Finding.grammar?
        unreadable := found.flatten.filterMap Finding.unreadable? } :
          FileWork Survey).run.perform machine workspace := rfl
  rcases perform_mapM_lookAtClass_cases machine workspace base CorpusClass.all with
    ⟨can, looked⟩ | ⟨⟨corpusClass, -, cannot⟩, path, looked⟩
  · refine .inl ⟨fun corpusClass => can corpusClass (by cases corpusClass <;> decide), ?_⟩
    rw [← account_eq]
    simp only [ended_eq, perform_run_bind, looked, ExceptT.run_pure, perform_pure]
    rw [← List.flatMap_def, ← List.map_flatMap]
    rfl
  · refine .inr ⟨fun all => cannot (all corpusClass), path, ?_⟩
    simp only [ended_eq, perform_run_bind, looked]

end Runs

/--
A survey accounts for visits. Each entry is counted once, under its class and the integer that
its directory is named by, if it has a text that can be counted; if not, it is listed once, as
is each directory whose name is no integer. All numbers are those of the visits.
-/
structure Accounts
    (survey : Survey)
    (tree : FileTree)
    (place : CorpusClass → Option Location)
    (base : Path)
    (visits : List Visit) : Prop where
  all : ∀ visit, visit ∈ visits ↔ visit.IsIn tree place
  once : visits.Nodup
  grammars : survey.grammars = visits.filterMap (Visit.stored? tree place)
  counted : ∀ visit : Visit,
    (visit.stored? tree place).isSome = true ↔ visit.IsCounted tree place
  listed : ∀ visit ∈ visits, ¬ visit.IsCounted tree place →
    survey.unreadable.count (visit.path base) = 1
  notListed : ∀ visit ∈ visits, visit.IsCounted tree place →
    visit.path base ∉ survey.unreadable
  nothingElse : ∀ path ∈ survey.unreadable,
    ∃ visit ∈ visits, ¬ visit.IsCounted tree place ∧ path = visit.path base
  bySize : ∀ corpusClass size count, (size, count) ∈ survey.bySize corpusClass ↔
    0 < count ∧ visits.countP (fun visit => (visit.stored? tree place).isSome &&
      visit.corpusClass = corpusClass && visit.size? = some size) = count
  increasing : ∀ corpusClass, ((survey.bySize corpusClass).map Prod.fst).Pairwise (· < ·)
  totals : ∀ corpusClass,
    (survey.members corpusClass).length = ((survey.bySize corpusClass).map Prod.snd).sum
  sum : survey.grammars.length =
    (CorpusClass.all.map fun corpusClass => (survey.members corpusClass).length).sum
  unique_le : survey.unique ≤ survey.grammars.length
  unique_add_duplicates : survey.unique + survey.duplicates = survey.grammars.length
  duplicates : survey.duplicates =
    ((survey.grammars.map StoredGrammar.text).eraseDups.map fun text =>
      (survey.grammars.map StoredGrammar.text).count text - 1).sum

section Numbers

variable {survey : Survey} {tree : FileTree} {place : CorpusClass → Option Location}
variable {base : Path} {visits : List Visit} {corpusClass : CorpusClass}

/-- The grammars of a survey are those of its classes. -/
theorem length_grammars (survey : Survey) : survey.grammars.length =
    (CorpusClass.all.map fun corpusClass => (survey.members corpusClass).length).sum := by
  obtain ⟨grammars, unreadable⟩ := survey
  unfold members
  induction grammars with
  | nil => rfl
  | cons stored others inductionHypothesis =>
      obtain ⟨corpusClass, size, text, shape⟩ := stored
      simp only [CorpusClass.all, List.map_cons, List.map_nil, List.sum_cons, List.sum_nil] at *
      cases corpusClass <;> simp [inductionHypothesis] <;> omega

/-- The number of grammars in a class is the sum over its sizes. -/
theorem length_members (survey : Survey) (corpusClass : CorpusClass) :
    (survey.members corpusClass).length = ((survey.bySize corpusClass).map Prod.snd).sum := by
  unfold bySize
  generalize isSizes : (survey.members corpusClass).map StoredGrammar.size = sizes
  have length : sizes.length = (survey.members corpusClass).length := by
    rw [← isSizes, List.length_map]
  rw [List.map_map, ← length, ← sum_count_eraseDups sizes]
  exact ((List.mergeSort_perm _ _).map _).sum_eq.symm

/-- The sizes of a class are reported in strictly increasing order. -/
theorem keys_increasing (survey : Survey) (corpusClass : CorpusClass) :
    ((survey.bySize corpusClass).map Prod.fst).Pairwise (· < ·) := by
  rw [keys_bySize]
  generalize (survey.members corpusClass).map StoredGrammar.size = sizes
  have sorted : (sizes.eraseDups.mergeSort).Pairwise (· ≤ ·) :=
    List.pairwise_mergeSort' (· ≤ ·) sizes.eraseDups
  have differ : (sizes.eraseDups.mergeSort).Nodup :=
    (List.mergeSort_perm _ _).nodup_iff.2 (nodup_eraseDups sizes)
  exact (sorted.and differ).imp fun both => Int.lt_iff_le_and_ne.2 both

/-- The paths that an account lists are those of the visits that it does not count. -/
theorem mem_unreadable {path : Path} :
    path ∈ (account tree place base).unreadable ↔
      ∃ visit ∈ Survey.visits tree place, ¬ visit.IsCounted tree place ∧
        visit.path base = path := by
  have notCounted : ∀ {visit : Visit}, (visit.stored? tree place).isNone = true ↔
      ¬ visit.IsCounted tree place := by
    intro visit
    rw [← Visit.stored?_isSome, Option.isNone_iff_eq_none, Option.not_isSome_iff_eq_none]
  simp only [account, List.mem_map, List.mem_filter, notCounted, and_assoc]

/-- Different visits have different paths. -/
theorem path_injOn
    {visit other : Visit}
    (isVisit : visit ∈ Survey.visits tree place)
    (isOther : other ∈ Survey.visits tree place)
    (same : visit.path base = other.path base) :
    visit = other :=
  Visit.eq_of_path_eq (mem_visits.1 isVisit) (mem_visits.1 isOther) same

/-- So no path is listed twice. -/
theorem nodup_unreadable (distinct : tree.Distinct) :
    (account tree place base).unreadable.Nodup := by
  refine List.Nodup.map_on (fun visit isVisit other isOther same => ?_)
    ((nodup_visits distinct).filter _)
  exact path_injOn (List.mem_filter.1 isVisit).1 (List.mem_filter.1 isOther).1 same

/-- An account counts under a class and a size the visits that have both. -/
theorem count_sizes (corpusClass : CorpusClass) (size : Int) :
    (((account tree place base).members corpusClass).map StoredGrammar.size).count size =
      (Survey.visits tree place).countP fun visit => (visit.stored? tree place).isSome &&
        visit.corpusClass = corpusClass && visit.size? = some size := by
  unfold members account
  rw [List.count, List.countP_map, List.countP_filter, List.countP_filterMap]
  refine List.countP_congr fun visit _ => ?_
  cases counts : visit.stored? tree place with
  | none => simp
  | some stored =>
      obtain ⟨isClass, isSize, -⟩ := Visit.stored?_eq_some.1 counts
      simp [isClass, isSize, and_comm]

/-- The account of all visits accounts for them. -/
theorem account_accounts
    (distinct : tree.Distinct)
    (place : CorpusClass → Option Location)
    (base : Path) :
    (account tree place base).Accounts tree place base (Survey.visits tree place) := by
  refine {
    all := fun visit => mem_visits
    once := nodup_visits distinct
    grammars := rfl
    counted := fun visit => Visit.stored?_isSome
    listed := fun visit isVisit isNot => List.count_eq_one_of_mem (nodup_unreadable distinct)
      (mem_unreadable.2 ⟨visit, isVisit, isNot, rfl⟩)
    notListed := ?_
    nothingElse := ?_
    bySize := fun corpusClass size count => by rw [mem_bySize, count_sizes]
    increasing := keys_increasing _
    totals := length_members _
    sum := length_grammars _
    unique_le := unique_le
    unique_add_duplicates := unique_add_duplicates
    duplicates := duplicates_eq_sum }
  · intro visit isVisit isCounted isListed
    obtain ⟨other, isOther, isNot, same⟩ := mem_unreadable.1 isListed
    cases path_injOn isOther isVisit same
    exact isNot isCounted
  · intro path isListed
    obtain ⟨visit, isVisit, isNot, rfl⟩ := mem_unreadable.1 isListed
    exact ⟨visit, isVisit, isNot, rfl⟩

end Numbers

/--
A survey changes nothing. If all that it looks up has a path that is short enough, it accounts
for everything there is to visit; otherwise there is no survey, as a name is too long.
-/
theorem ofDirectory_accounts
    (machine : Machine)
    (workspace : Workspace)
    (base : Path)
    (distinct : workspace.tree.Distinct) :
    let tree := workspace.tree
    let ended := (ofDirectory base).run.perform machine workspace
    ended.2 = workspace ∧
      match ended.1 with
      | .ok survey =>
          (∀ corpusClass, CanLookAt tree machine.directory base corpusClass) ∧
            ∃ visits, survey.Accounts tree (classPlace? tree machine.directory base) base visits
      | .error failure =>
          ¬ (∀ corpusClass, CanLookAt tree machine.directory base corpusClass) ∧
            ∃ path, failure = .failed { cause := .nameTooLong, path } := by
  intro tree ended
  rcases perform_ofDirectory_cases machine workspace base with
    ⟨can, ended_eq⟩ | ⟨cannot, path, ended_eq⟩
  · rw [show ended = _ from ended_eq]
    exact ⟨rfl, can, _, account_accounts distinct _ base⟩
  · rw [show ended = _ from ended_eq]
    exact ⟨rfl, cannot, path, rfl⟩

/-- A survey of a grammar and an empty file counts the one, and lists the other. -/
theorem ofDirectory_accounts_of_pair :
    let tree := pair (quoting "a").toUTF8 "".toUTF8
    tree.Distinct ∧
      ∃ survey,
        (ofDirectory ⟨.relative, []⟩).run.perform .calm { tree } = (.ok survey, { tree }) ∧
        survey.grammars.length = 1 ∧ survey.unreadable.length = 1 ∧
        ∃ visits, survey.Accounts tree (classPlace? tree [] ⟨.relative, []⟩) ⟨.relative, []⟩
          visits := by
  intro tree
  have distinct : tree.Distinct :=
    show [["lr1"], ["1", "lr1"], ["a", "1", "lr1"], ["b", "1", "lr1"]].Nodup by decide
  have decoded : Text.decode? (quoting "a").toUTF8 = some (quoting "a") :=
    Text.decode?_toUTF8 (by decide +kernel)
  have empty : Text.decode? "".toUTF8 = some "" := Text.decode?_toUTF8 (by decide)
  have counted : Shape.recount (quoting "a") =
      .ok { rules := 1, alternatives := 1, symbols := 1 } := by
    decide +kernel
  have refused : Shape.recount "" = .error .noSection := by decide +kernel
  have found := perform_ofDirectory_pair
    (lookAtFile_of_counted rfl decoded .lr1 1 ⟨.relative, ["lr1", "1", "a"]⟩ counted)
    (lookAtFile_of_uncounted rfl empty .lr1 1 ⟨.relative, ["lr1", "1", "b"]⟩ refused)
  obtain ⟨unchanged, accounts⟩ :=
    ofDirectory_accounts .calm { tree } ⟨.relative, []⟩ distinct
  rw [found] at accounts
  exact ⟨distinct, _, Prod.ext found unchanged, rfl, rfl, accounts.2⟩

/-- A name as long as names may be. -/
def longName (letter : Char) : String :=
  String.ofList (List.replicate 255 letter)

/-- A corpus of one grammar, whose file and output directory have long names. -/
def longNamed : FileTree where
  entries := [
    ([longName 'n'], .directory),
    (["lr1", longName 'n'], .directory),
    (["1", "lr1", longName 'n'], .directory),
    ([longName 'x', "1", "lr1", longName 'n'], .file (quoting "a").toUTF8)]

/-- A path to the output directory that goes down and up before. -/
def detour : Path where
  anchor := .relative
  parts := (List.replicate 14 [longName 'n', ".."]).flatten ++ [longName 'n']

/-- The detour can be handed over. -/
theorem holdsNull_detour :
    FileWork.holdsNull (detour.child CorpusClass.lr1.text).text = false := by
  have letters : FileWork.holdsNull (longName 'n') = false :=
    Path.holdsNull_replicate (by decide) 255
  rw [Path.holdsNull_text, Path.child_isName CorpusClass.lr1.isName_text, List.any_eq_false]
  intro part member
  have known : part = longName 'n' ∨ part = ".." ∨ part = CorpusClass.lr1.text := by
    simp only [detour, List.mem_append, List.mem_flatten, List.mem_replicate,
      List.mem_singleton] at member
    obtain (⟨_, ⟨-, rfl⟩, inside⟩ | last) | isClass := member
    · rw [List.mem_cons, List.mem_singleton] at inside
      exact inside.imp id .inl
    · exact .inl last
    · exact .inr (.inr isClass)
  rw [Bool.not_eq_true]
  rcases known with rfl | rfl | rfl
  · exact letters
  · decide
  · exact CorpusClass.lr1.isName_text.noNull

/--
There is no survey of a corpus if a path in it is too long: the directories for the class and the
size are found, and the file in it could be counted, but the path of the file has 4143 bytes.
-/
theorem ofDirectory_fails_of_detour :
    let place := classPlace? longNamed [] detour
    let visit : Visit := .entry .lr1 "1" 1 (longName 'x')
    longNamed.Distinct ∧ place .lr1 = some ["lr1", longName 'n'] ∧
      visit.IsIn longNamed place ∧ visit.IsCounted longNamed place ∧
      ∀ survey,
        ((ofDirectory detour).run.perform .calm { tree := longNamed }).1 ≠ .ok survey := by
  intro place visit
  have distinct : longNamed.Distinct := by
    unfold Distinct
    decide +kernel
  have leads : longNamed.endOf [] (detour.child CorpusClass.lr1.text) =
      .ok ["lr1", longName 'n'] := by
    decide +kernel
  have isDirectory : longNamed.isDirectory ["lr1", longName 'n'] = true := by decide +kernel
  have stands : place .lr1 = some ["lr1", longName 'n'] := by
    simp only [place, classPlace?, holdsNull_detour, leads, Bool.false_eq_true, if_false,
      Except.toOption, Option.filter_some, isDirectory, if_true]
  have isIn : visit.IsIn longNamed place :=
    ⟨_, stands, by decide +kernel, by decide +kernel, by decide +kernel⟩
  have isCounted : visit.IsCounted longNamed place := by
    have found : longNamed.find? [longName 'x', "1", "lr1", longName 'n'] =
        some (.file (quoting "a").toUTF8) := by
      simp [FileTree.find?, longNamed, List.lookup_cons]
    have decoded : Text.decode? (quoting "a").toUTF8 = some (quoting "a") :=
      Text.decode?_toUTF8 (by decide +kernel)
    refine ⟨quoting "a", ?_, by decide +kernel⟩
    simp only [visit, Visit.text?, stands, FileTree.readFile, found, decoded, Except.toOption,
      Option.bind_eq_bind, Option.bind_some]
  refine ⟨distinct, stands, isIn, isCounted, fun survey surveyed => ?_⟩
  have tooLong : isTooLong (visit.path detour) = true := by decide +kernel
  rcases perform_ofDirectory_cases .calm { tree := longNamed } detour with
    ⟨can, -⟩ | ⟨-, path, fails⟩
  · have short := (can .lr1).visits visit rfl isIn
    rw [tooLong] at short
    cases short
  · rw [fails] at surveyed
    cases surveyed

end Survey

end GrammarCorpus
