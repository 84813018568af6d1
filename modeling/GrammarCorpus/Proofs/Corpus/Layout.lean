import GrammarCorpus.Proofs.Corpus.History

namespace GrammarCorpus

/-!
# The layout of a corpus

A corpus begins with an output directory that is missing or empty. What a tree has received
since then stands below that directory: a directory for each class, in it one for each
size, and in these the files. There is nothing else.
-/

open FileTree

namespace FileTree

variable {before after : FileTree} {directory location root : Location} {path : Path}

/-- The end of a path, if there is one; it may be free. -/
def endOf (tree : FileTree) (directory : Location) (path : Path) : Except SystemError Location :=
  tree.walk (if path.anchor = .relative then directory else []) path.parts

/-- Nothing stands below the end of a path, or the way ends before at a missing place. -/
def IsVacant (tree : FileTree) (directory : Location) (path : Path) : Prop :=
  match tree.endOf directory path with
  | .ok location => ∀ name, tree.contains (name :: location) = false
  | .error cause => cause.isAbsence = true

/-- Where the way of a path was missing, nothing stands at its end later. -/
theorem free_of_walk_notFound
    {parts : List String}
    (within : before.Within after)
    (grounded : before.Grounded)
    (straight : ∀ beginning rest, parts = beginning ++ ".." :: rest →
      before.walk location beginning ≠ .error .notFound ∧
        ∀ place, before.walk location beginning = .ok place → before.find? place ≠ none)
    (missing : before.walk location parts = .error .notFound)
    (leads : after.walk location parts = .ok root) :
    before.find? root = none := by
  induction parts generalizing location with
  | nil => cases missing
  | cons part parts inductionHypothesis =>
      cases found : before.find? location with
      | none =>
          have plain : ".." ∉ part :: parts := by
            intro member
            obtain ⟨beginning, rest, split⟩ := List.append_of_mem member
            cases beginning with
            | nil => exact (straight [] rest split).2 location rfl found
            | cons first others =>
                refine (straight (first :: others) rest split).1 ?_
                simp [walk, enter, found]
          obtain ⟨rfl, -, -⟩ := walk_eq_ok_of_plain plain leads
          exact grounded.free_of_suffix found (List.suffix_append _ _)
      | some entry =>
          have same : after.enter location part = before.enter location part := by
            simp only [enter, found, within location entry found]
          simp only [walk] at missing leads
          rw [same] at leads
          cases entered : before.enter location part with
          | error cause =>
              rw [entered] at leads
              cases leads
          | ok next =>
              rw [entered] at missing leads
              refine inductionHypothesis ?_ missing leads
              intro beginning rest split
              have further := straight (part :: beginning) rest (congrArg _ split)
              simpa only [walk, entered] using further

/-- Below the end of a path that was vacant, everything is new. -/
theorem IsVacant.free_below
    (vacant : before.IsVacant directory path)
    (within : before.Within after)
    (grounded : before.Grounded)
    (straight : before.Straight directory path)
    (leads : after.endOf directory path = .ok root)
    (inside : root <:+ location)
    (below : location ≠ root) :
    before.find? location = none := by
  unfold IsVacant at vacant
  cases ends : before.endOf directory path with
  | ok place =>
      obtain rfl : place = root := Except.ok.inj ((within.walk ends).symm.trans leads)
      rw [ends] at vacant
      obtain ⟨more, rfl⟩ := inside
      rcases List.eq_nil_or_concat more with rfl | ⟨others, name, rfl⟩
      · exact absurd rfl below
      · rw [List.concat_eq_append, List.append_assoc]
        exact grounded.free_of_suffix (contains_eq_false_iff.1 (vacant name))
          (List.suffix_append _ _)
  | error cause =>
      by_cases blocked : cause = .notFound
      · subst blocked
        refine grounded.free_of_suffix (free_of_walk_notFound within grounded ?_ ends leads) inside
        intro beginning rest split
        have notMissing := straight beginning rest split
        unfold IsMissing at notMissing
        refine ⟨fun fails => ?_, fun place reached free => ?_⟩
        · simp only [fails, ne_eq, Decidable.not_not] at notMissing
          exact absurd notMissing (by decide)
        · simp [reached, free] at notMissing
      · cases (within.walk_error ends blocked).symm.trans leads

end FileTree

namespace CorpusClass

/-- The name of a class is short enough for a directory. -/
theorem short_text (corpusClass : CorpusClass) : Short corpusClass.text := by
  unfold Short
  cases corpusClass <;> decide

end CorpusClass

namespace Holding

/-- The names on the way to a grammar below the output directory, the innermost first. -/
def way (holding : Holding) : List String :=
  [holding.shipment.name, toString holding.size, holding.shipment.corpusClass.text]

end Holding

namespace Stocked

variable {machine : Machine} {output : Path} {before after : FileTree}
variable {labels : List (CorpusClass × Int × String)} {stock : List Holding}
variable {root location : Location} {holding : Holding} {inner : List String}

/-- A grammar is stored on its way below the end of the output path. -/
theorem exists_root
    (stocked : Stocked machine output before after labels stock)
    (apart : machine.NamesApart)
    (member : holding ∈ stock) :
    ∃ root, after.endOf machine.directory output = .ok root ∧
      after.resolve machine.directory (holding.file output).1 = .ok (holding.way ++ root) := by
  obtain ⟨number, named⟩ := stocked.named holding member
  have isName : Path.IsName holding.shipment.name := named ▸ apart.isName number
  obtain ⟨location, reached, -⟩ :=
    stocked.receives.stored _ (List.mem_map_of_mem member)
  have way := walk_of_resolve reached
  unfold Holding.file Shipment.stored at way
  rw [Store.place_eq isName, walk_append] at way
  unfold endOf
  cases ends : after.walk (if output.anchor = .relative then machine.directory else [])
      output.parts with
  | error cause =>
      rw [ends] at way
      cases way
  | ok root =>
      rw [ends] at way
      have plain : ".." ∉ [holding.shipment.corpusClass.text, toString holding.size,
          holding.shipment.name] := by
        simp only [List.mem_cons, List.not_mem_nil, or_false, not_or]
        exact ⟨holding.shipment.corpusClass.isName_text.notTwoPoints.symm,
          (Path.isName_toString _).notTwoPoints.symm, isName.notTwoPoints.symm⟩
      obtain ⟨rfl, -, -⟩ := walk_eq_ok_of_plain plain way
      exact ⟨root, rfl, reached⟩

/-- The end of the output path is known, and with it where a grammar is stored. -/
theorem resolve_file
    (stocked : Stocked machine output before after labels stock)
    (apart : machine.NamesApart)
    (leads : after.endOf machine.directory output = .ok root)
    (member : holding ∈ stock) :
    after.resolve machine.directory (holding.file output).1 = .ok (holding.way ++ root) := by
  obtain ⟨other, ends, reached⟩ := stocked.exists_root apart member
  cases leads.symm.trans ends
  exact reached

/-- If the output path ends nowhere, nothing is stored. -/
theorem eq_nil_of_error
    {cause : SystemError}
    (stocked : Stocked machine output before after labels stock)
    (apart : machine.NamesApart)
    (ends : after.endOf machine.directory output = .error cause) :
    stock = [] := by
  refine List.eq_nil_iff_forall_not_mem.2 fun holding member => ?_
  obtain ⟨root, leads, -⟩ := stocked.exists_root apart member
  cases ends.symm.trans leads

/-- Where a grammar is stored stands a file with its text, in directories. -/
theorem find?_way
    (stocked : Stocked machine output before after labels stock)
    (apart : machine.NamesApart)
    (leads : after.endOf machine.directory output = .ok root)
    (member : holding ∈ stock) :
    after.find? (holding.way ++ root) = some (.file holding.shipment.text.toUTF8) ∧
      ∀ above, above <:+ holding.way ++ root → above ≠ holding.way ++ root →
        after.isDirectory above = true := by
  obtain ⟨location, reached, -, found, above⟩ :=
    stocked.receives.stored _ (List.mem_map_of_mem member)
  cases reached.symm.trans (stocked.resolve_file apart leads member)
  exact ⟨found, above⟩

/-- All that stands below the end of the output path is a grammar, or on the way to one. -/
theorem exists_of_contains
    (stocked : Stocked machine output before after labels stock)
    (apart : machine.NamesApart)
    (leads : after.endOf machine.directory output = .ok root)
    (free : ∀ location, root <:+ location → location ≠ root → before.find? location = none)
    (some : inner ≠ [])
    (holds : after.contains (inner ++ root) = true) :
    ∃ holding ∈ stock, inner <:+ holding.way := by
  obtain ⟨entry, found⟩ := contains_iff.1 holds
  have new := free (inner ++ root) (List.suffix_append _ _)
    fun same => some (List.append_left_eq_self.1 same)
  obtain ⟨file, member, place, reached, ⟨more, whole⟩, -⟩ :=
    stocked.receives.nothingElse _ entry found new
  obtain ⟨holding, isHolding, rfl⟩ := List.mem_map.1 member
  cases reached.symm.trans (stocked.resolve_file apart leads isHolding)
  rw [← List.append_assoc] at whole
  exact ⟨holding, isHolding, more, List.append_cancel_right whole⟩

/-- No two grammars are stored on the same way. -/
theorem pairwise_way
    (stocked : Stocked machine output before after labels stock)
    (apart : machine.NamesApart)
    (leads : after.endOf machine.directory output = .ok root) :
    stock.Pairwise fun first second => first.way ≠ second.way := by
  refine (List.pairwise_map.1 stocked.receives.apart).imp_of_mem ?_
  intro first second isFirst isSecond differ same
  rw [stocked.resolve_file apart leads isFirst, stocked.resolve_file apart leads isSecond,
    same] at differ
  exact differ rfl

end Stocked

namespace FileTree

/--
Below a root stands nothing but files where they belong, each a rendering of the right
size, and the directories above them. The files hold the given texts.
-/
structure IsCorpus (tree : FileTree) (root : Location) (texts : List String) : Prop where
  stored : ∀ text, text ∈ texts ↔ ∃ location,
    root <:+ location ∧ location ≠ root ∧ tree.find? location = some (.file text.toUTF8)
  files : ∀ location content,
    root <:+ location →
      location ≠ root →
      tree.find? location = some (.file content) →
      ∃ (corpusClass : CorpusClass) (size : Int) (name text : String),
        location = [name, toString size, corpusClass.text] ++ root ∧
          content = text.toUTF8 ∧
          IsRendering size text
  noStaging : ∀ location name,
    root <:+ location → tree.contains ((".staging-" ++ name) :: location) = false

/-- What stands at the end of a path is a corpus; if the way ends before, there are no texts. -/
def HoldsCorpus
    (tree : FileTree)
    (directory : Location)
    (path : Path)
    (texts : List String) : Prop :=
  match tree.endOf directory path with
  | .ok root => tree.IsCorpus root texts
  | .error _ => texts = []

end FileTree

namespace Stocked

variable {machine : Machine} {output : Path} {before after : FileTree}
variable {labels : List (CorpusClass × Int × String)} {stock : List Holding}
variable {root : Location}

/-- A file below the end of the output path is that of a grammar. -/
theorem exists_of_file
    {location : Location}
    {content : ByteArray}
    (stocked : Stocked machine output before after labels stock)
    (apart : machine.NamesApart)
    (leads : after.endOf machine.directory output = .ok root)
    (free : ∀ location, root <:+ location → location ≠ root → before.find? location = none)
    (inside : root <:+ location)
    (below : location ≠ root)
    (found : after.find? location = some (.file content)) :
    ∃ holding ∈ stock, location = holding.way ++ root ∧
      content = holding.shipment.text.toUTF8 := by
  obtain ⟨inner, rfl⟩ := inside
  have some : inner ≠ [] := by
    rintro rfl
    exact below rfl
  obtain ⟨holding, member, more, upward⟩ := stocked.exists_of_contains apart leads free some
    (contains_iff.2 ⟨_, found⟩)
  obtain ⟨file, above⟩ := stocked.find?_way apart leads member
  by_cases whole : inner = holding.way
  · subst whole
    cases found.symm.trans file
    exact ⟨holding, member, rfl, rfl⟩
  · have directory := above (inner ++ root) ⟨more, by rw [← List.append_assoc, upward]⟩
      fun same => whole (List.append_cancel_right same)
    rw [isDirectory_iff] at directory
    cases found.symm.trans directory

/-- What has been received is a corpus. -/
theorem isCorpus
    (stocked : Stocked machine output before after labels stock)
    (apart : machine.NamesApart)
    (leads : after.endOf machine.directory output = .ok root)
    (free : ∀ location, root <:+ location → location ≠ root → before.find? location = none)
    (renderings : ∀ label ∈ labels, IsRendering label.2.1 label.2.2) :
    after.IsCorpus root (labels.map fun label => label.2.2) where
  stored := by
    intro text
    rw [← stocked.labels_eq, List.map_map, List.mem_map]
    constructor
    · rintro ⟨holding, member, rfl⟩
      refine ⟨holding.way ++ root, List.suffix_append _ _, ?_,
        (stocked.find?_way apart leads member).1⟩
      exact fun same => List.cons_ne_nil _ _ (List.append_left_eq_self.1 same)
    · rintro ⟨location, inside, below, found⟩
      obtain ⟨holding, member, -, same⟩ :=
        stocked.exists_of_file apart leads free inside below found
      exact ⟨holding, member, (String.toByteArray_inj.1 same).symm⟩
  files := by
    intro location content inside below found
    obtain ⟨holding, member, rfl, rfl⟩ :=
      stocked.exists_of_file apart leads free inside below found
    have label : holding.label ∈ labels := stocked.labels_eq ▸ List.mem_map_of_mem member
    exact ⟨holding.shipment.corpusClass, holding.size, holding.shipment.name,
      holding.shipment.text, rfl, rfl, renderings _ label⟩
  noStaging := by
    rintro _ name ⟨inner, rfl⟩
    rw [← Bool.not_eq_true]
    intro holds
    obtain ⟨holding, member, upward⟩ := stocked.exists_of_contains apart leads free
      (List.cons_ne_nil (".staging-" ++ name) inner) holds
    obtain ⟨number, named⟩ := stocked.named holding member
    have onTheWay : ".staging-" ++ name ∈ holding.way := upward.subset List.mem_cons_self
    unfold Holding.way at onTheWay
    simp only [List.mem_cons, List.not_mem_nil, or_false] at onTheWay
    rcases onTheWay with isName | isSize | isClass
    · have noHyphen := apart.noHyphen number
      rw [← named, ← isName, String.toList_append, List.mem_append, not_or] at noHyphen
      exact noHyphen.1 (by decide)
    · have begins := Machine.head_toString holding.size []
      rw [List.append_nil, ← isSize, String.toList_append] at begins
      exact begins.1 rfl
    · have begins : ∀ corpusClass : CorpusClass, corpusClass.text.toList.head? ≠ some '.' := by
        intro corpusClass
        cases corpusClass <;> decide
      refine begins holding.shipment.corpusClass ?_
      rw [← isClass, String.toList_append]
      rfl

/-- Whether or not the output path ends somewhere, there is a corpus, and nothing else. -/
theorem holdsCorpus
    (stocked : Stocked machine output before after labels stock)
    (apart : machine.NamesApart)
    (free : ∀ root, after.endOf machine.directory output = .ok root → ∀ location,
      root <:+ location → location ≠ root → before.find? location = none)
    (renderings : ∀ label ∈ labels, IsRendering label.2.1 label.2.2) :
    after.HoldsCorpus machine.directory output (labels.map fun label => label.2.2) := by
  unfold HoldsCorpus
  cases ends : after.endOf machine.directory output with
  | ok root => exact stocked.isCorpus apart ends (free root ends) renderings
  | error cause =>
      change labels.map _ = []
      rw [← stocked.labels_eq, stocked.eq_nil_of_error apart ends]
      rfl

end Stocked

end GrammarCorpus
