import GrammarCorpus.Proofs.Store.Growth

namespace GrammarCorpus

/-!
# Deliveries

A delivery fixes what stays the same while a partition is stored: the site, the output
directory and the staging directory behind it, the size, and the names that are still
new. What is delivered are shipments, each with a class, a name and a text; every
shipment has a place where it is staged and one where it is stored.
-/

open FileTree

/-- A grammar on its way into a corpus, with the name that its file will have. -/
structure Shipment where
  corpusClass : CorpusClass
  name : String
  text : String

namespace Shipment

/-- The shipments of grammars that are named in a row. -/
def all (names : Nat → String) : Nat → List (CorpusClass × Classified) → List Shipment
  | _, [] => []
  | number, (corpusClass, classified) :: rest =>
      ⟨corpusClass, names number, classified.text⟩ :: all names (number + 1) rest

/-- The two places of a shipment. -/
def placement (output staging : Path) (size : Int) (shipment : Shipment) : Placement where
  corpusClass := shipment.corpusClass
  staged := Store.place staging shipment.corpusClass size shipment.name
  stored := Store.place output shipment.corpusClass size shipment.name

/-- Shipments have names from the first number on. -/
theorem exists_number_of_mem_all
    {names : Nat → String}
    {number : Nat}
    {items : List (CorpusClass × Classified)}
    {shipment : Shipment}
    (member : shipment ∈ all names number items) :
    ∃ later, number ≤ later ∧ shipment.name = names later := by
  induction items generalizing number with
  | nil => cases member
  | cons item rest inductionHypothesis =>
      rcases List.mem_cons.1 member with rfl | inRest
      · exact ⟨number, Nat.le_refl _, rfl⟩
      · obtain ⟨later, further, named⟩ := inductionHypothesis inRest
        exact ⟨later, by omega, named⟩

end Shipment

/-- The text of a class is a name. -/
theorem CorpusClass.isName_text (corpusClass : CorpusClass) :
    Path.IsName corpusClass.text := by
  have allowed :
      (corpusClass.text.toList.all fun character =>
        character ≠ '/' ∧ character ≠ '.' ∧ character ≠ Char.ofNat 0) = true := by
    cases corpusClass <;> decide
  refine Path.isName_of_forall (by cases corpusClass <;> decide) ?_
  intro character member
  exact of_decide_eq_true (List.all_eq_true.1 allowed character member)

/-- Classes have different names. -/
theorem CorpusClass.text_injective
    {first second : CorpusClass}
    (same : first.text = second.text) :
    first = second := by
  cases first <;> cases second <;> first | rfl | exact absurd same (by decide)

namespace Store

/-- The place of a file has its class, its size and its name behind the output directory. -/
theorem place_eq
    {name : String}
    (isName : Path.IsName name)
    (output : Path)
    (corpusClass : CorpusClass)
    (size : Int) :
    place output corpusClass size name =
      ⟨output.anchor, output.parts ++ [corpusClass.text, toString size, name]⟩ := by
  unfold place
  rw [Path.child_isName corpusClass.isName_text, Path.child_isName (Path.isName_toString size),
    Path.child_isName isName]
  simp

end Store

namespace Machine

/--
The names from a number on are new: they are single parts of paths, differ from each
other, and neither they nor the names of staging directories occur in a tree.
-/
structure NewNames (machine : Machine) (tree : FileTree) (first : Nat) : Prop where
  isName : ∀ number, first ≤ number → Path.IsName (machine.names number)
  distinct : ∀ number later,
    first ≤ number → number < later → machine.names number ≠ machine.names later
  unused : ∀ number location,
    first ≤ number →
      machine.names number ∈ location ∨ ".staging-" ++ machine.names number ∈ location →
      tree.find? location = none

end Machine

/-- What stays the same while a partition is stored. -/
structure Delivery (machine : Machine) (old : FileTree) where
  site : Site machine.directory old
  /-- The output directory, behind the site. -/
  output : List String
  /-- The name of the staging directory. -/
  staging : String
  size : Int
  /-- The number of the first name for a file. -/
  first : Nat
  downward : site.Downward output
  nameable : old.Nameable
  nullFree : ∀ part ∈ site.known, FileWork.holdsNull part = false
  outputFree : ∀ taken,
    taken ≠ [] → taken <+: output → old.find? (site.place taken) = none
  stagingName : Path.IsName staging
  stagingFree : old.find? (site.place (output ++ [staging])) = none
  stagingApart : ∀ corpusClass : CorpusClass, staging ≠ corpusClass.text
  names : machine.NewNames old first

namespace Delivery

variable {machine : Machine} {old tree : FileTree} (delivery : Delivery machine old)
variable {shipment other : Shipment}

/-- The staging directory, behind the site. -/
def root : List String :=
  delivery.output ++ [delivery.staging]

/-- The directory of a class and the size below another directory. -/
def folder (outer : List String) (corpusClass : CorpusClass) : List String :=
  outer ++ [corpusClass.text, toString delivery.size]

/-- The file of a shipment below a directory. -/
def file (outer : List String) (shipment : Shipment) : List String :=
  delivery.folder outer shipment.corpusClass ++ [shipment.name]

/-- Where a shipment is staged. -/
def staged (shipment : Shipment) : Location :=
  delivery.site.place (delivery.file delivery.root shipment)

/-- Where a shipment is stored. -/
def stored (shipment : Shipment) : Location :=
  delivery.site.place (delivery.file delivery.output shipment)

/-- The two places of a shipment, as paths. -/
def placement (shipment : Shipment) : Placement :=
  shipment.placement (delivery.site.path delivery.output)
    (delivery.site.path delivery.root) delivery.size

/-- The shipment has one of the new names. -/
def Named (shipment : Shipment) : Prop :=
  ∃ number, delivery.first ≤ number ∧ shipment.name = machine.names number

variable {delivery}

/-- Shipments in a row have new names. -/
theorem named_of_mem_all
    {number : Nat}
    {items : List (CorpusClass × Classified)}
    (begun : delivery.first ≤ number)
    (member : shipment ∈ Shipment.all machine.names number items) :
    delivery.Named shipment := by
  obtain ⟨later, further, named⟩ := Shipment.exists_number_of_mem_all member
  exact ⟨later, Nat.le_trans begun further, named⟩

/-- A shipment's name is a name. -/
theorem Named.isName (named : delivery.Named shipment) : Path.IsName shipment.name := by
  obtain ⟨number, begun, same⟩ := named
  exact same ▸ delivery.names.isName number begun

/-- The place of a shipment below a directory is its file. -/
theorem place_eq_file (named : delivery.Named shipment) (outer : List String) :
    Store.place (delivery.site.path outer) shipment.corpusClass delivery.size shipment.name =
      delivery.site.path (delivery.file outer shipment) := by
  rw [Store.place_eq named.isName]
  simp [Site.path, file, folder]

/-- Where a shipment is staged, as a path. -/
theorem placement_staged (named : delivery.Named shipment) :
    (delivery.placement shipment).staged =
      delivery.site.path (delivery.file delivery.root shipment) :=
  place_eq_file named delivery.root

/-- Where a shipment is stored, as a path. -/
theorem placement_stored (named : delivery.Named shipment) :
    (delivery.placement shipment).stored =
      delivery.site.path (delivery.file delivery.output shipment) :=
  place_eq_file named delivery.output

/-- The directory of a file. -/
theorem parent_file (outer : List String) :
    (delivery.site.path (delivery.file outer shipment)).parent =
      delivery.site.path (delivery.folder outer shipment.corpusClass) := by
  simp only [Path.parent, Site.path, file]
  rw [← List.append_assoc, List.dropLast_concat]

/-- The location of a file below a directory. -/
theorem site_place_file (outer : List String) (shipment : Shipment) :
    delivery.site.place (delivery.file outer shipment) =
      shipment.name :: delivery.site.place (delivery.folder outer shipment.corpusClass) := by
  rw [file, Site.place_concat]

/-- Files with different names have different places below a directory. -/
theorem place_file_ne_place_file
    (outer : List String)
    (apart : shipment.name ≠ other.name) :
    delivery.site.place (delivery.file outer shipment) ≠
      delivery.site.place (delivery.file outer other) := by
  rw [site_place_file, site_place_file]
  exact fun same => apart (List.cons.inj same).1

/-- No file is stored where one is staged. -/
theorem staged_ne_stored (shipment other : Shipment) :
    delivery.staged shipment ≠ delivery.stored other := by
  intro same
  have lengths := congrArg List.length (Site.place_injective same)
  simp [file, folder, root] at lengths

/-- No file is staged where the staging directory is. -/
theorem root_ne_staged (shipment : Shipment) :
    delivery.site.place delivery.root ≠ delivery.staged shipment := by
  intro same
  have lengths := congrArg List.length (Site.place_injective same)
  simp [file, folder] at lengths

/-- No file is stored where the staging directory is. -/
theorem root_ne_stored (shipment : Shipment) :
    delivery.site.place delivery.root ≠ delivery.stored shipment := by
  intro same
  have lengths := congrArg List.length (Site.place_injective same)
  simp [file, folder, root] at lengths

/-- What goes on with names behind the output directory leads downwards. -/
theorem downward_append
    {more : List String}
    (names : ∀ part ∈ more, Path.IsName part) :
    delivery.site.Downward (delivery.output ++ more) :=
  delivery.downward.append fun member => (names _ member).notTwoPoints rfl

/-- The staging directory is below the site and was free. -/
theorem fresh_root : delivery.site.Fresh (delivery.site.path delivery.root) := by
  refine ⟨delivery.root, by simp [root], downward_append ?_, rfl, delivery.stagingFree⟩
  intro part member
  exact List.mem_singleton.1 member ▸ delivery.stagingName

/-- The directory of a class leads downwards. -/
theorem downward_folder (corpusClass : CorpusClass) :
    delivery.site.Downward (delivery.folder delivery.output corpusClass) := by
  refine downward_append ?_
  intro part member
  rcases List.mem_cons.1 member with rfl | isSize
  · exact CorpusClass.isName_text corpusClass
  · exact List.mem_singleton.1 isSize ▸ Path.isName_toString delivery.size

/-- The directory of a class leads downwards, also in the staging directory. -/
theorem downward_stagedFolder (corpusClass : CorpusClass) :
    delivery.site.Downward (delivery.folder delivery.root corpusClass) := by
  unfold folder root
  rw [List.append_assoc]
  refine downward_append ?_
  intro part member
  simp only [List.singleton_append, List.mem_cons, List.not_mem_nil, or_false] at member
  rcases member with rfl | rfl | rfl
  · exact delivery.stagingName
  · exact CorpusClass.isName_text corpusClass
  · exact Path.isName_toString delivery.size

/-- The way to a shipment in the staging directory leads downwards. -/
theorem downward_stagedFile (named : delivery.Named shipment) :
    delivery.site.Downward (delivery.file delivery.root shipment) := by
  refine (downward_stagedFolder shipment.corpusClass).append ?_
  exact fun member => named.isName.notTwoPoints (List.mem_singleton.1 member).symm

/-- The way to a shipment in the corpus leads downwards. -/
theorem downward_storedFile (named : delivery.Named shipment) :
    delivery.site.Downward (delivery.file delivery.output shipment) := by
  refine (downward_folder shipment.corpusClass).append ?_
  exact fun member => named.isName.notTwoPoints (List.mem_singleton.1 member).symm

/-- A place that a new name leads to was free. -/
theorem free_file (named : delivery.Named shipment) (outer : List String) :
    old.find? (delivery.site.place (delivery.file outer shipment)) = none := by
  obtain ⟨number, begun, same⟩ := named
  refine delivery.names.unused number _ begun (.inl ?_)
  rw [site_place_file, same]
  exact List.mem_cons_self

/-- The place where a shipment is stored was free. -/
theorem fresh_stored (named : delivery.Named shipment) :
    delivery.site.Fresh (delivery.site.path (delivery.file delivery.output shipment)) :=
  ⟨_, by simp [file], downward_storedFile named, rfl, free_file named delivery.output⟩

end Delivery

end GrammarCorpus
