import GrammarCorpus.Corpus.Survey
import GrammarCorpus.Proofs.Corpus.Layout
import Mathlib.Data.List.Nodup
import Mathlib.Data.List.Perm.Basic

namespace GrammarCorpus

/-!
# What a survey finds

A survey goes through the directories of a corpus and reads every file again. It finds the
grammars that were stored, each of them once, in some order, and nothing that it cannot
read.
-/

open FileTree Work List

namespace StoredGrammar

/-- What is compared with the grammars that were stored. -/
def label (stored : StoredGrammar) : CorpusClass × Int × String :=
  (stored.corpusClass, stored.size, stored.text)

end StoredGrammar

namespace Survey

variable {machine : Machine} {workspace : Workspace} {base : Path} {location root : Location}

/-- What is said about the directory for a class at a place. -/
def atPlace (tree : FileTree) (base : Path) (corpusClass : CorpusClass) (location : Location) :
    List Finding :=
  if tree.isDirectory location then
    (sortedNames tree location).flatMap
      (lookAtSize tree corpusClass (base.child corpusClass.text) location)
  else
    []

/-- The first path that is looked up at a place although it is too long. -/
def tooLongAt? (tree : FileTree) (base : Path) (corpusClass : CorpusClass) (location : Location) :
    Option Path :=
  if tree.isDirectory location then
    (lookedUp tree (base.child corpusClass.text) location).find? isTooLong
  else
    none

/-- A directory for a class that can be named is looked at where its path leads. -/
theorem perform_lookAtClass_of_resolve
    {corpusClass : CorpusClass}
    (handed : FileWork.holdsNull (base.child corpusClass.text).text = false)
    (leads : workspace.tree.resolve machine.directory (base.child corpusClass.text) =
      .ok location) :
    (lookAtClass base corpusClass).run.perform machine workspace =
      (match tooLongAt? workspace.tree base corpusClass location with
        | some path => .error (.failed { cause := .nameTooLong, path := path.text })
        | none => .ok (atPlace workspace.tree base corpusClass location), workspace) := by
  unfold lookAtClass FileWork.place? atPlace tooLongAt?
  simp only [handed, Bool.false_eq_true, if_false, perform_run_bind, perform_run_lift,
    perform_locate, leads, ExceptT.run_pure, perform_pure, perform_run_get]
  split
  · cases (lookedUp workspace.tree (base.child corpusClass.text) location).find? isTooLong <;> rfl
  · rfl

/-- If all paths are short enough, the directory for a class is looked at. -/
theorem perform_lookAtClass_of_short
    {corpusClass : CorpusClass}
    (handed : FileWork.holdsNull (base.child corpusClass.text).text = false)
    (leads : workspace.tree.resolve machine.directory (base.child corpusClass.text) =
      .ok location)
    (short : ∀ path ∈ lookedUp workspace.tree (base.child corpusClass.text) location,
      isTooLong path = false) :
    (lookAtClass base corpusClass).run.perform machine workspace =
      (.ok (atPlace workspace.tree base corpusClass location), workspace) := by
  have none : tooLongAt? workspace.tree base corpusClass location = none := by
    unfold tooLongAt?
    split
    · exact List.find?_eq_none.2 fun path member => by rw [short path member]; decide
    · rfl
  rw [perform_lookAtClass_of_resolve handed leads, none]

/-- Where the way to the directory for a class ends before, there is nothing to look at. -/
theorem perform_lookAtClass_of_absent
    {corpusClass : CorpusClass}
    (absent : FileWork.holdsNull (base.child corpusClass.text).text = true ∨
      ∃ cause, workspace.tree.resolve machine.directory (base.child corpusClass.text) =
        .error cause ∧ cause.isAbsence = true) :
    (lookAtClass base corpusClass).run.perform machine workspace = (.ok [], workspace) := by
  unfold lookAtClass FileWork.place?
  by_cases null : FileWork.holdsNull (base.child corpusClass.text).text = true
  · simp only [null, if_true, perform_run_bind, ExceptT.run_pure, perform_pure, perform_run_get]
  · obtain ⟨cause, fails, isAbsence⟩ := absent.resolve_left null
    simp only [null, Bool.false_eq_true, if_false, perform_run_bind, perform_run_lift,
      perform_locate, fails, isAbsence, if_true, ExceptT.run_pure, perform_pure,
      perform_run_get]

/-- It is an error if the directory for a class cannot be looked up, other than by absence. -/
theorem perform_lookAtClass_of_error
    {corpusClass : CorpusClass}
    {cause : SystemError}
    (handed : FileWork.holdsNull (base.child corpusClass.text).text = false)
    (fails : workspace.tree.resolve machine.directory (base.child corpusClass.text) =
      .error cause)
    (present : cause.isAbsence = false) :
    (lookAtClass base corpusClass).run.perform machine workspace =
      (.error (.failed { cause, path := (base.child corpusClass.text).text }), workspace) := by
  unfold lookAtClass FileWork.place?
  simp only [handed, Bool.false_eq_true, if_false, perform_run_bind, perform_run_lift,
    perform_locate, fails, present, ExceptT.run_throw, perform_pure]

/-- A survey puts together what is said about each class. -/
theorem perform_ofDirectory
    {found : CorpusClass → List Finding}
    (looks : ∀ corpusClass, (lookAtClass base corpusClass).run.perform machine workspace =
      (.ok (found corpusClass), workspace)) :
    (ofDirectory base).run.perform machine workspace =
      (.ok {
        grammars := (CorpusClass.all.flatMap found).filterMap Finding.grammar?
        unreadable := (CorpusClass.all.flatMap found).filterMap Finding.unreadable? },
        workspace) := by
  have each : ∀ classes : List CorpusClass,
      (classes.mapM (lookAtClass base)).run.perform machine workspace =
        (.ok (classes.map found), workspace) := by
    intro classes
    induction classes with
    | nil => rfl
    | cons corpusClass rest inductionHypothesis =>
        rw [List.mapM_cons]
        simp only [perform_run_bind, looks, inductionHypothesis, ExceptT.run_pure, perform_pure,
          List.map_cons]
  unfold ofDirectory
  simp only [perform_run_bind, each, ExceptT.run_pure, perform_pure, List.flatMap_def]

/-- There is no survey where the first class cannot be looked up, other than by absence. -/
theorem perform_ofDirectory_of_error
    {cause : SystemError}
    (handed : FileWork.holdsNull (base.child CorpusClass.lr1.text).text = false)
    (fails : workspace.tree.resolve machine.directory (base.child CorpusClass.lr1.text) =
      .error cause)
    (present : cause.isAbsence = false) :
    (ofDirectory base).run.perform machine workspace =
      (.error (.failed { cause, path := (base.child CorpusClass.lr1.text).text }), workspace) := by
  unfold ofDirectory CorpusClass.all
  simp only [List.mapM_cons, perform_run_bind, perform_lookAtClass_of_error handed fails present]

/-- The ways to all files of a corpus, in the order in which a survey goes. -/
def ways (tree : FileTree) (root : Location) : List (CorpusClass × String × String) :=
  CorpusClass.all.flatMap fun corpusClass =>
    (sortedNames tree (corpusClass.text :: root)).flatMap fun size =>
      (sortedNames tree (size :: corpusClass.text :: root)).map fun name =>
        (corpusClass, size, name)

/-- What is said about the file on a way. -/
def lookAt (tree : FileTree) (base : Path) (root : Location) :
    CorpusClass × String × String → Finding
  | (corpusClass, size, name) =>
      lookAtFile tree corpusClass ((Text.integer? size).getD 0)
        { base.child corpusClass.text with
          parts := ((base.child corpusClass.text).parts ++ [size]) ++ [name] }
        (name :: size :: corpusClass.text :: root)

variable {tree : FileTree}

/-- The names in a directory are those of the entries there. -/
theorem mem_sortedNames {name : String} :
    name ∈ sortedNames tree location ↔ tree.contains (name :: location) = true := by
  rw [sortedNames, List.mem_mergeSort, mem_names]

/-- The names in a directory differ from each other. -/
theorem nodup_sortedNames (distinct : tree.Distinct) (location : Location) :
    (sortedNames tree location).Nodup :=
  (List.mergeSort_perm _ _).nodup_iff.2 (distinct.nodup_names location)

/-- A way leads through the corpus to an entry. -/
theorem mem_ways {corpusClass : CorpusClass} {size name : String} :
    (corpusClass, size, name) ∈ ways tree root ↔
      tree.contains (size :: corpusClass.text :: root) = true ∧
        tree.contains (name :: size :: corpusClass.text :: root) = true := by
  have isClass : corpusClass ∈ CorpusClass.all := by cases corpusClass <;> decide
  simp only [ways, List.mem_flatMap, List.mem_map, mem_sortedNames, Prod.mk.injEq]
  constructor
  · rintro ⟨_, -, _, isSize, _, isName, rfl, rfl, rfl⟩
    exact ⟨isSize, isName⟩
  · rintro ⟨isSize, isName⟩
    exact ⟨corpusClass, isClass, size, isSize, name, isName, rfl, rfl, rfl⟩

/-- What is looked up in a directory are its entries, and those in directories for sizes. -/
theorem mem_lookedUp {path inner : Path} :
    inner ∈ lookedUp tree path location ↔
      ∃ size, tree.contains (size :: location) = true ∧
        (inner = { path with parts := path.parts ++ [size] } ∨
          tree.isDirectory (size :: location) = true ∧ (Text.integer? size).isSome = true ∧
            ∃ name, tree.contains (name :: size :: location) = true ∧
              inner = { path with parts := path.parts ++ [size, name] }) := by
  unfold lookedUp
  simp only [List.mem_flatMap, mem_sortedNames]
  refine exists_congr fun size => and_congr_right fun _ => ?_
  by_cases entered : (tree.isDirectory (size :: location) && (Text.integer? size).isSome) = true
  · obtain ⟨isDirectory, isInteger⟩ := Bool.and_eq_true_iff.1 entered
    simp only [isDirectory, isInteger, Bool.and_self, if_true, List.mem_cons, List.mem_map,
      mem_sortedNames, true_and, List.append_assoc, List.singleton_append]
    exact or_congr_right (exists_congr fun name => and_congr_right fun _ => eq_comm)
  · rw [if_neg entered, List.mem_singleton]
    refine (or_iff_left ?_).symm
    rintro ⟨isDirectory, isInteger, -⟩
    exact entered (Bool.and_eq_true_iff.2 ⟨isDirectory, isInteger⟩)

/-- A survey goes every way once. -/
theorem nodup_ways (distinct : tree.Distinct) (root : Location) : (ways tree root).Nodup := by
  refine List.nodup_flatMap.2 ⟨fun corpusClass _ => ?_, ?_⟩
  · refine List.nodup_flatMap.2 ⟨fun size _ => ?_, ?_⟩
    · exact (nodup_sortedNames distinct _).map fun _ _ same => (Prod.mk.inj (Prod.mk.inj same).2).2
    · refine (nodup_sortedNames distinct _).imp fun differ way isFirst isSecond => ?_
      obtain ⟨_, -, rfl⟩ := List.mem_map.1 isFirst
      obtain ⟨_, -, same⟩ := List.mem_map.1 isSecond
      exact differ (Prod.mk.inj (Prod.mk.inj same).2).1.symm
  · have classes : CorpusClass.all.Nodup := by decide
    refine classes.imp fun differ way isFirst isSecond => ?_
    obtain ⟨_, -, inFirst⟩ := List.mem_flatMap.1 isFirst
    obtain ⟨_, -, rfl⟩ := List.mem_map.1 inFirst
    obtain ⟨_, -, inSecond⟩ := List.mem_flatMap.1 isSecond
    obtain ⟨_, -, same⟩ := List.mem_map.1 inSecond
    exact differ (Prod.mk.inj same).1.symm

/-- If all sizes can be read, a survey looks at the files on all ways. -/
theorem flatMap_atPlace
    (grounded : tree.Grounded)
    (sizes : ∀ corpusClass : CorpusClass, ∀ size,
      tree.contains (size :: corpusClass.text :: root) = true →
        tree.isDirectory (size :: corpusClass.text :: root) = true ∧
          (Text.integer? size).isSome = true) :
    (CorpusClass.all.flatMap fun corpusClass =>
        atPlace tree base corpusClass (corpusClass.text :: root)) =
      (ways tree root).map (lookAt tree base root) := by
  unfold ways
  rw [List.map_flatMap]
  refine List.flatMap_congr fun corpusClass _ => ?_
  rw [List.map_flatMap]
  have each : ∀ size ∈ sortedNames tree (corpusClass.text :: root),
      lookAtSize tree corpusClass (base.child corpusClass.text) (corpusClass.text :: root) size =
        ((sortedNames tree (size :: corpusClass.text :: root)).map fun name =>
          (corpusClass, size, name)).map (lookAt tree base root) := by
    intro size member
    obtain ⟨isDirectory, isInteger⟩ := sizes corpusClass size (mem_sortedNames.1 member)
    obtain ⟨number, read⟩ := Option.isSome_iff_exists.1 isInteger
    rw [List.map_map, lookAtSize, if_pos isDirectory, read]
    refine List.map_congr_left fun name _ => ?_
    simp only [Function.comp_apply, lookAt, read, Option.getD_some]
  unfold atPlace
  cases there : tree.isDirectory (corpusClass.text :: root) with
  | true =>
      rw [if_pos rfl]
      exact List.flatMap_congr each
  | false =>
      have nothing : sortedNames tree (corpusClass.text :: root) = [] := by
        refine List.eq_nil_iff_forall_not_mem.2 fun name member => ?_
        rw [grounded name _ (mem_sortedNames.1 member)] at there
        cases there
      rw [nothing]
      rfl

/-- A rendering in a file is found with its class and its size. -/
theorem exists_lookAt
    {corpusClass : CorpusClass}
    {size : Int}
    {name text : String}
    (least : 2 ≤ size)
    (greatest : size ≤ 26)
    (isRendering : IsRendering size text)
    (found : tree.find? (name :: toString size :: corpusClass.text :: root) =
      some (.file text.toUTF8)) :
    ∃ stored, lookAt tree base root (corpusClass, toString size, name) = .grammar stored ∧
      stored.label = (corpusClass, size, text) := by
  obtain ⟨shape, counted, -⟩ := isRendering.isCounted
  have isSize : Text.integer? (toString size) = some size :=
    Text.integer?_toString least greatest
  have read : tree.readFile (name :: toString size :: corpusClass.text :: root) =
      .ok text.toUTF8 := by
    rw [FileTree.readFile, found]
  refine ⟨⟨corpusClass, size, text, shape⟩, ?_, rfl⟩
  simp only [lookAt, lookAtFile, read, isSize, isRendering.isDecoded, counted,
    Except.toOption, Option.getD_some, Option.bind_eq_bind, Option.bind_some, Option.pure_def]

end Survey

namespace Holding

/-- The way of a grammar, as a survey goes it. -/
def surveyed (holding : Holding) : CorpusClass × String × String :=
  (holding.shipment.corpusClass, toString holding.size, holding.shipment.name)

/-- Different grammars are on different ways. -/
theorem way_eq_of_surveyed_eq
    {first second : Holding}
    (same : first.surveyed = second.surveyed) :
    first.way = second.way := by
  obtain ⟨isClass, rest⟩ := Prod.mk.inj same
  obtain ⟨isSize, isName⟩ := Prod.mk.inj rest
  unfold way
  rw [isClass, isSize, isName]

end Holding

namespace Stocked

variable {machine : Machine} {output : Path} {before after : FileTree}
variable {labels : List (CorpusClass × Int × String)} {stock : List Holding}
variable {root : Location} {holding : Holding}

/-- The ways of a survey are those of the grammars that have been received. -/
theorem ways_perm
    (stocked : Stocked machine output before after labels stock)
    (apart : machine.NamesApart)
    (distinct : after.Distinct)
    (leads : after.endOf machine.directory output = .ok root)
    (free : ∀ location, root <:+ location → location ≠ root → before.find? location = none) :
    Survey.ways after root ~ stock.map Holding.surveyed := by
  have differ : (stock.map Holding.surveyed).Nodup :=
    List.pairwise_map.2 ((stocked.pairwise_way apart leads).imp fun apart same =>
      apart (Holding.way_eq_of_surveyed_eq same))
  refine (List.perm_ext_iff_of_nodup (Survey.nodup_ways distinct root) differ).2 ?_
  rintro ⟨corpusClass, size, name⟩
  rw [Survey.mem_ways, List.mem_map]
  constructor
  · rintro ⟨-, holds⟩
    obtain ⟨holding, member, upward⟩ := stocked.exists_of_contains apart leads free
      (List.cons_ne_nil name [size, corpusClass.text]) holds
    have whole : [name, size, corpusClass.text] = holding.way := upward.eq_of_length rfl
    simp only [Holding.way, List.cons.injEq, and_true] at whole
    obtain ⟨isName, isSize, isClass⟩ := whole
    exact ⟨holding, member, by
      rw [Holding.surveyed, ← isName, ← isSize, CorpusClass.text_injective isClass]⟩
  · rintro ⟨holding, member, same⟩
    obtain ⟨isClass, rest⟩ := Prod.mk.inj same
    obtain ⟨isSize, isName⟩ := Prod.mk.inj rest
    obtain ⟨found, above⟩ := stocked.find?_way apart leads member
    rw [← isClass, ← isSize, ← isName]
    exact ⟨contains_of_isDirectory (above _ (List.suffix_cons _ _)
      fun same => List.cons_ne_self _ _ same.symm), contains_iff.2 ⟨_, found⟩⟩

/-- What stands in the directory for a class is a directory for a size. -/
theorem sizes
    (stocked : Stocked machine output before after labels stock)
    (apart : machine.NamesApart)
    (leads : after.endOf machine.directory output = .ok root)
    (free : ∀ location, root <:+ location → location ≠ root → before.find? location = none)
    (bounds : ∀ label ∈ labels, 2 ≤ label.2.1 ∧ label.2.1 ≤ 26)
    (corpusClass : CorpusClass)
    (size : String)
    (holds : after.contains (size :: corpusClass.text :: root) = true) :
    after.isDirectory (size :: corpusClass.text :: root) = true ∧
      (Text.integer? size).isSome = true := by
  obtain ⟨holding, member, more, whole⟩ := stocked.exists_of_contains apart leads free
    (List.cons_ne_nil size [corpusClass.text]) holds
  obtain ⟨-, above⟩ := stocked.find?_way apart leads member
  have label : holding.label ∈ labels := stocked.labels_eq ▸ List.mem_map_of_mem member
  obtain ⟨least, greatest⟩ := bounds _ label
  have tail : [size, corpusClass.text] =
      [toString holding.size, holding.shipment.corpusClass.text] := by
    have upward : [size, corpusClass.text] <:+ holding.way := ⟨more, whole⟩
    refine (List.suffix_cons_iff.1 upward).elim (fun same => ?_)
      fun further => further.eq_of_length rfl
    cases congrArg List.length same
  obtain ⟨isSize, isClass⟩ : size = toString holding.size ∧
      corpusClass.text = holding.shipment.corpusClass.text := by simpa using tail
  rw [isSize, isClass]
  refine ⟨above _ (List.suffix_cons _ _) fun same => List.cons_ne_self _ _ same.symm, ?_⟩
  rw [show Text.integer? (toString holding.size) = some holding.size from
    Text.integer?_toString least greatest]
  rfl

/-- What a survey looks up leads to a grammar that has been received, or ends on the way to it. -/
theorem isTooLong_eq_false
    (stocked : Stocked machine output before after labels stock)
    (apart : machine.NamesApart)
    (leads : after.endOf machine.directory output = .ok root)
    (free : ∀ location, root <:+ location → location ≠ root → before.find? location = none)
    (corpusClass : CorpusClass)
    {path : Path}
    (member : path ∈ Survey.lookedUp after (output.child corpusClass.text)
      (corpusClass.text :: root)) :
    Survey.isTooLong path = false := by
  have onTheWay : ∃ inner : List String, inner ≠ [] ∧ after.contains (inner ++ root) = true ∧
      path = ⟨output.anchor, output.parts ++ inner.reverse⟩ := by
    rw [Path.child_isName corpusClass.isName_text] at member
    obtain ⟨size, isSize, rfl | ⟨-, -, name, isName, rfl⟩⟩ := Survey.mem_lookedUp.1 member
    · exact ⟨[size, corpusClass.text], List.cons_ne_nil _ _, isSize, by simp⟩
    · exact ⟨[name, size, corpusClass.text], List.cons_ne_nil _ _, isName, by simp⟩
  obtain ⟨inner, some, holds, rfl⟩ := onTheWay
  obtain ⟨holding, isHolding, more, whole⟩ :=
    stocked.exists_of_contains apart leads free some holds
  obtain ⟨number, named⟩ := stocked.named holding isHolding
  have reached := stocked.resolve_file apart leads isHolding
  have stands : (holding.file output).1 =
      ⟨output.anchor, (output.parts ++ inner.reverse) ++ more.reverse⟩ := by
    have ordered := congrArg List.reverse whole
    rw [List.reverse_append] at ordered
    rw [List.append_assoc, ordered]
    exact Store.place_eq (named ▸ apart.isName number) output _ _
  have short : (holding.file output).1.text.utf8ByteSize ≤ Work.pathLimit := by
    by_contra long
    rw [resolve, if_pos (Nat.not_le.1 long)] at reached
    cases reached
  rw [stands] at short
  have nonempty : output.parts ++ inner.reverse ≠ [] :=
    List.append_ne_nil_of_right_ne_nil _ (mt List.reverse_eq_nil_iff.1 some)
  exact decide_eq_false (Nat.not_lt.2
    ((Path.utf8ByteSize_text_le_append nonempty output.anchor more.reverse).trans short))

/-- All that is found are the grammars that have been received, in some order. -/
theorem findings
    (stocked : Stocked machine output before after labels stock)
    (apart : machine.NamesApart)
    (distinct : after.Distinct)
    (grounded : after.Grounded)
    (leads : after.endOf machine.directory output = .ok root)
    (free : ∀ location, root <:+ location → location ≠ root → before.find? location = none)
    (bounds : ∀ label ∈ labels, 2 ≤ label.2.1 ∧ label.2.1 ≤ 26)
    (renderings : ∀ label ∈ labels, IsRendering label.2.1 label.2.2)
    (base : Path) :
    let found := CorpusClass.all.flatMap fun corpusClass =>
      Survey.atPlace after base corpusClass (corpusClass.text :: root)
    (found.filterMap Finding.grammar?).map StoredGrammar.label ~ labels ∧
      found.filterMap Finding.unreadable? = [] := by
  intro found
  have arranged : found ~
      (stock.map Holding.surveyed).map (Survey.lookAt after base root) := by
    rw [show found = _ from Survey.flatMap_atPlace grounded
      (stocked.sizes apart leads free bounds)]
    exact (stocked.ways_perm apart distinct leads free).map _
  have each : ∀ holding ∈ stock, ∃ stored,
      Survey.lookAt after base root holding.surveyed = .grammar stored ∧
        stored.label = holding.label := by
    intro holding member
    have label : holding.label ∈ labels := stocked.labels_eq ▸ List.mem_map_of_mem member
    obtain ⟨least, greatest⟩ := bounds _ label
    exact Survey.exists_lookAt least greatest (renderings _ label)
      (stocked.find?_way apart leads member).1
  have listed : ∀ holdings : List Holding,
      (∀ holding ∈ holdings, ∃ stored,
        Survey.lookAt after base root holding.surveyed = .grammar stored ∧
          stored.label = holding.label) →
      let said := (holdings.map Holding.surveyed).map (Survey.lookAt after base root)
      (said.filterMap Finding.grammar?).map StoredGrammar.label = holdings.map Holding.label ∧
        said.filterMap Finding.unreadable? = [] := by
    intro holdings known
    induction holdings with
    | nil => exact ⟨rfl, rfl⟩
    | cons holding rest inductionHypothesis =>
        obtain ⟨stored, isFound, same⟩ := known holding List.mem_cons_self
        obtain ⟨grammars, unreadable⟩ := inductionHypothesis fun other member =>
          known other (List.mem_cons_of_mem _ member)
        simp only [List.map_cons, List.filterMap_cons, isFound, Finding.grammar?,
          Finding.unreadable?, same]
        exact ⟨congrArg _ grammars, unreadable⟩
  obtain ⟨grammars, unreadable⟩ := listed stock each
  refine ⟨?_, ?_⟩
  · rw [← stocked.labels_eq, ← grammars]
    exact (arranged.filterMap _).map _
  · exact List.Perm.eq_nil (unreadable ▸ arranged.filterMap _)

/-- Where nothing has been received, nothing stands below the end of the output path. -/
theorem isDirectory_eq_false
    (stocked : Stocked machine output before after labels [])
    (apart : machine.NamesApart)
    (leads : after.endOf machine.directory output = .ok root)
    (free : ∀ location, root <:+ location → location ≠ root → before.find? location = none)
    (name : String) :
    after.isDirectory (name :: root) = false := by
  rw [← Bool.not_eq_true]
  intro isDirectory
  obtain ⟨holding, member, -⟩ := stocked.exists_of_contains apart leads free
    (List.cons_ne_nil name []) (contains_of_isDirectory isDirectory)
  cases member

end Stocked

namespace FileTree

variable {before after tree : FileTree} {directory root : Location} {path : Path}

/-- In the same tree, a walk comes to the same end. -/
theorem Same.walk_eq (same : before.Same after) (location : Location) (parts : List String) :
    after.walk location parts = before.walk location parts := by
  induction parts generalizing location with
  | nil => rfl
  | cons part parts inductionHypothesis =>
      have entered : after.enter location part = before.enter location part := by
        simp only [enter, same location]
      simp only [walk, entered, inductionHypothesis]

/-- A path that is short enough leads to its end. -/
theorem resolve_eq_endOf (short : path.text.utf8ByteSize ≤ Work.pathLimit) :
    tree.resolve directory path = tree.endOf directory path := by
  unfold resolve endOf
  rw [if_neg (Nat.not_lt.2 short)]

/-- The way to the directory for a class goes on at the end of the path above. -/
theorem endOf_child
    (tree : FileTree)
    (directory : Location)
    (path : Path)
    (corpusClass : CorpusClass) :
    tree.endOf directory (path.child corpusClass.text) =
      (tree.endOf directory path).bind fun root => tree.enter root corpusClass.text := by
  unfold endOf
  rw [Path.child_isName corpusClass.isName_text, walk_append]
  refine congrArg _ (funext fun root => ?_)
  simp only [walk]
  cases tree.enter root corpusClass.text <;> rfl

/-- The directory for a class is entered, or nothing stands there. -/
theorem enter_class_cases
    (grounded : tree.Grounded)
    (root : Location)
    (corpusClass : CorpusClass) :
    tree.enter root corpusClass.text = .ok (corpusClass.text :: root) ∨
      tree.isDirectory (corpusClass.text :: root) = false ∧
        ∃ cause, tree.enter root corpusClass.text = .error cause ∧ cause.isAbsence = true := by
  cases isDirectory : tree.isDirectory root with
  | true =>
      rw [enter_plain corpusClass.isName_text.notTwoPoints isDirectory,
        if_neg (Nat.not_lt.2 corpusClass.short_text)]
      exact .inl rfl
  | false =>
      refine .inr ⟨?_, ?_⟩
      · rw [← Bool.not_eq_true]
        intro below
        rw [grounded _ _ (contains_of_isDirectory below)] at isDirectory
        cases isDirectory
      · unfold enter
        cases found : tree.find? root with
        | none => exact ⟨_, rfl, by decide⟩
        | some entry =>
            cases entry with
            | file content => exact ⟨_, rfl, by decide⟩
            | directory =>
                rw [isDirectory_iff.2 found] at isDirectory
                cases isDirectory

end FileTree

namespace Stocked

variable {machine : Machine} {output : Path} {before : FileTree} {workspace : Workspace}
variable {labels : List (CorpusClass × Int × String)} {stock : List Holding}

/-- Whatever is new has been received as a file, or stands above one. -/
theorem same_of_nil (stocked : Stocked machine output before workspace.tree labels []) :
    before.Same workspace.tree := by
  refine stocked.receives.kept.same fun location entry found => ?_
  cases free : before.find? location with
  | some other => exact (stocked.receives.kept location other free).symm.trans found
  | none =>
      obtain ⟨file, member, -⟩ := stocked.receives.nothingElse location entry found free
      cases member

/-- What is said about a class, if the output path has an end. -/
theorem perform_lookAtClass
    {root : Location}
    (stocked : Stocked machine output before workspace.tree labels stock)
    (apart : machine.NamesApart)
    (grounded : workspace.tree.Grounded)
    (leads : workspace.tree.endOf machine.directory output = .ok root)
    (free : ∀ location, root <:+ location → location ≠ root → before.find? location = none)
    (handed : stock ≠ [] → ∀ part ∈ output.parts, FileWork.holdsNull part = false)
    (corpusClass : CorpusClass)
    (short : (output.child corpusClass.text).text.utf8ByteSize ≤ Work.pathLimit) :
    (Survey.lookAtClass output corpusClass).run.perform machine workspace =
      (.ok (Survey.atPlace workspace.tree output corpusClass (corpusClass.text :: root)),
        workspace) := by
  have nothing : workspace.tree.isDirectory (corpusClass.text :: root) = false →
      Survey.atPlace workspace.tree output corpusClass (corpusClass.text :: root) = [] := by
    intro noDirectory
    rw [Survey.atPlace, noDirectory, if_neg Bool.false_ne_true]
  cases null : FileWork.holdsNull (output.child corpusClass.text).text with
  | true =>
      have empty : stock = [] := by
        by_contra some
        rw [Path.child_isName corpusClass.isName_text, Path.holdsNull_text, List.any_append,
          List.any_eq_false.2 fun part member => by rw [handed some part member]; decide] at null
        simp [corpusClass.isName_text.noNull] at null
      subst empty
      rw [nothing (stocked.isDirectory_eq_false apart leads free _)]
      exact Survey.perform_lookAtClass_of_absent (.inl null)
  | false =>
      have way := endOf_child workspace.tree machine.directory output corpusClass
      rw [leads, ← resolve_eq_endOf short] at way
      rcases enter_class_cases grounded root corpusClass with
        enters | ⟨noDirectory, cause, fails, absent⟩
      · exact Survey.perform_lookAtClass_of_short null (way.trans enters)
          fun _ member => stocked.isTooLong_eq_false apart leads free corpusClass member
      · rw [nothing noDirectory]
        exact Survey.perform_lookAtClass_of_absent (.inr ⟨cause, way.trans fails, absent⟩)

/-- A survey finds the grammars that have been received, and nothing that is unreadable. -/
theorem survey
    (stocked : Stocked machine output before workspace.tree labels stock)
    (apart : machine.NamesApart)
    (distinct : workspace.tree.Distinct)
    (grounded : workspace.tree.Grounded)
    (vacant : before.IsVacant machine.directory output)
    (groundedBefore : before.Grounded)
    (straight : before.Straight machine.directory output)
    (handed : stock ≠ [] → ∀ part ∈ output.parts, FileWork.holdsNull part = false)
    (short : ∀ corpusClass : CorpusClass,
      (output.child corpusClass.text).text.utf8ByteSize ≤ Work.pathLimit)
    (bounds : ∀ label ∈ labels, 2 ≤ label.2.1 ∧ label.2.1 ≤ 26)
    (renderings : ∀ label ∈ labels, IsRendering label.2.1 label.2.2) :
    ∃ survey, ((Survey.ofDirectory output).run.perform machine workspace).1 = .ok survey ∧
      survey.unreadable = [] ∧
      survey.grammars.map StoredGrammar.label ~ labels := by
  cases leads : workspace.tree.endOf machine.directory output with
  | ok root =>
      have free : ∀ location, root <:+ location → location ≠ root →
          before.find? location = none := fun location inside below =>
        vacant.free_below stocked.receives.kept groundedBefore straight leads inside below
      have looks := fun corpusClass => stocked.perform_lookAtClass apart grounded leads free
        handed corpusClass (short corpusClass)
      obtain ⟨grammars, unreadable⟩ := stocked.findings apart distinct grounded leads free bounds
        renderings output
      exact ⟨_, congrArg Prod.fst (Survey.perform_ofDirectory looks), unreadable, grammars⟩
  | error cause =>
      obtain rfl := stocked.eq_nil_of_error apart leads
      have absent : cause.isAbsence = true := by
        have same : workspace.tree.endOf machine.directory output =
            before.endOf machine.directory output := stocked.same_of_nil.walk_eq _ _
        unfold IsVacant at vacant
        rwa [← same, leads] at vacant
      have looks : ∀ corpusClass, (Survey.lookAtClass output corpusClass).run.perform machine
          workspace = (.ok [], workspace) := by
        intro corpusClass
        refine Survey.perform_lookAtClass_of_absent (.inr ⟨cause, ?_, absent⟩)
        rw [resolve_eq_endOf (short corpusClass), endOf_child, leads]
        rfl
      have nothing : labels = [] := stocked.labels_eq.symm
      rw [nothing]
      exact ⟨_, congrArg Prod.fst (Survey.perform_ofDirectory looks), rfl, .nil⟩

end Stocked

end GrammarCorpus
