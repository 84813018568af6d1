import GrammarCorpus.Proofs.Corpus.Survey
import GrammarCorpus.Proofs.Frontier
import Mathlib.Algebra.BigOperators.Group.List.Lemmas
import Mathlib.Algebra.Ring.Nat
import Mathlib.Data.Finset.Card

namespace GrammarCorpus

/-!
# What a survey reports of a history

After any number of batches, successful and failed ones, the survey of a corpus that was
missing or empty before reports the numbers of grammars that the successful batches gave:
in all, for each class, and for each size in a class. It counts as many different grammars
as there are different texts, and nothing is unreadable.
-/

open FileTree Work List

namespace Partition

/-- The number of grammars of a class in partitions. -/
def inClass (partitions : List Partition) (corpusClass : CorpusClass) : Nat :=
  (partitions.map fun partition => (partition.members corpusClass).length).sum

/-- The number of grammars of a class in the partitions of a size. -/
def ofSize (partitions : List Partition) (corpusClass : CorpusClass) (size : Int) : Nat :=
  inClass (partitions.filter fun partition => partition.size = size) corpusClass

/-- The texts of all grammars that partitions hold in their classes. -/
def texts (partitions : List Partition) : List String :=
  partitions.flatMap fun partition => partition.contents.map fun item => item.2.text

variable {partitions : List Partition}

/-- The texts are those that a survey can find. -/
theorem texts_eq : texts partitions =
    (partitions.flatMap labels).map fun label => label.2.2 := by
  unfold texts labels
  rw [List.map_flatMap]
  exact List.flatMap_congr fun partition _ => by rw [List.map_map]; rfl

/-- All that is said about grammars of a class is said about its members. -/
theorem countP_labels (partition : Partition) (property : CorpusClass × Int × String → Bool) :
    partition.labels.countP property =
      (CorpusClass.all.map fun corpusClass =>
        (partition.members corpusClass).countP fun classified =>
          property (corpusClass, partition.size, classified.text)).sum := by
  unfold labels contents
  rw [List.countP_map, List.countP_flatMap]
  refine congrArg List.sum (List.map_congr_left fun corpusClass _ => ?_)
  simp only [Function.comp_apply, List.countP_map]
  rfl

/-- The labels of a class are as many as its members. -/
theorem countP_inClass (corpusClass : CorpusClass) :
    (partitions.flatMap labels).countP (fun label => label.1 = corpusClass) =
      inClass partitions corpusClass := by
  rw [List.countP_flatMap]
  refine congrArg List.sum (List.map_congr_left fun partition _ => ?_)
  rw [Function.comp_apply, countP_labels]
  cases corpusClass <;> simp [CorpusClass.all]

/-- The labels of a class and a size are as many as its members in the partitions. -/
theorem countP_ofSize (corpusClass : CorpusClass) (size : Int) :
    (partitions.flatMap labels).countP
        (fun label => label.1 = corpusClass && label.2.1 = size) =
      ofSize partitions corpusClass size := by
  induction partitions with
  | nil => rfl
  | cons partition rest inductionHypothesis =>
      have here : partition.labels.countP
          (fun label => label.1 = corpusClass && label.2.1 = size) =
            if partition.size = size then (partition.members corpusClass).length else 0 := by
        rw [countP_labels]
        by_cases same : partition.size = size <;>
        · cases corpusClass <;> simp [CorpusClass.all, same]
      rw [List.flatMap_cons, List.countP_append, inductionHypothesis, here]
      unfold ofSize inClass
      by_cases same : partition.size = size
      · simp [same]
      · simp [same]

/-- A partition holds as many grammars as its classes do. -/
theorem length_labels : (partitions.flatMap labels).length =
    (CorpusClass.all.map (inClass partitions)).sum := by
  rw [List.length_flatMap]
  induction partitions with
  | nil => rfl
  | cons partition rest inductionHypothesis =>
      rw [List.map_cons, List.sum_cons, inductionHypothesis]
      simp [labels, contents, CorpusClass.all, inClass]
      omega

end Partition

namespace Survey

/--
What a survey says agrees with the partitions that were stored. A size is absent where no
partition has grammars of the class.
-/
structure Reports (survey : Survey) (partitions : List Partition) : Prop where
  unreadable : survey.unreadable = []
  bySize : ∀ corpusClass size count, (size, count) ∈ survey.bySize corpusClass ↔
    0 < count ∧ count = Partition.ofSize partitions corpusClass size
  sizes : ∀ corpusClass, ((survey.bySize corpusClass).map Prod.fst).Nodup
  total : ∀ corpusClass,
    (survey.members corpusClass).length = Partition.inClass partitions corpusClass
  grammars :
    survey.grammars.length = (CorpusClass.all.map (Partition.inClass partitions)).sum
  unique : survey.unique = (Partition.texts partitions).toFinset.card
  duplicates : survey.duplicates + survey.unique = survey.grammars.length

variable {survey : Survey} {partitions : List Partition}

/-- Without later repetitions, a list has as many items as there are different ones. -/
theorem length_eraseDups {α : Type} [DecidableEq α] (items : List α) :
    items.eraseDups.length = items.toFinset.card := by
  rw [← List.toFinset_card_of_nodup (nodup_eraseDups items)]
  refine congrArg _ (Finset.ext fun item => ?_)
  rw [List.mem_toFinset, List.mem_toFinset, List.mem_eraseDups]

/-- There are no more different texts than grammars. -/
theorem unique_le : survey.unique ≤ survey.grammars.length := by
  unfold Survey.unique
  rw [length_eraseDups]
  exact (List.toFinset_card_le _).trans_eq (List.length_map _)

/-- The items of a list are as many as its different items and their repetitions. -/
theorem sum_count_eraseDups {α : Type} [DecidableEq α] (items : List α) :
    (items.eraseDups.map fun item => items.count item).sum = items.length := by
  have arranged : items.eraseDups ~ items.dedup :=
    (List.perm_ext_iff_of_nodup (nodup_eraseDups items) (List.nodup_dedup items)).2 fun item => by
      rw [List.mem_eraseDups, List.mem_dedup]
  rw [(arranged.map _).sum_eq, List.sum_map_count_dedup_eq_length]

/-- The repetitions of a list are those items that are left without the different ones. -/
theorem length_eraseDups_add_repetitions {α : Type} [DecidableEq α] (items : List α) :
    items.eraseDups.length + (items.eraseDups.map fun item => items.count item - 1).sum =
      items.length := by
  have positive : ∀ item ∈ items.eraseDups, 0 < items.count item := fun item member =>
    List.count_pos_iff.2 (List.mem_eraseDups.1 member)
  rw [← sum_count_eraseDups items]
  generalize items.eraseDups = different at positive
  induction different with
  | nil => rfl
  | cons item others inductionHypothesis =>
      have some := positive item List.mem_cons_self
      have rest := inductionHypothesis fun other member =>
        positive other (List.mem_cons_of_mem _ member)
      simp only [List.length_cons, List.map_cons, List.sum_cons]
      omega

/-- The grammars beyond the first with each text are counted text by text. -/
theorem duplicates_eq_sum :
    survey.duplicates = ((survey.grammars.map StoredGrammar.text).eraseDups.map fun text =>
      (survey.grammars.map StoredGrammar.text).count text - 1).sum := by
  have single : ∀ counts : List Nat,
      total ((counts.filter (1 < ·)).map (· - 1)) = (counts.map (· - 1)).sum := by
    intro counts
    induction counts with
    | nil => rfl
    | cons count others inductionHypothesis =>
        by_cases many : 1 < count
        · simp [many, inductionHypothesis]
        · have none : count - 1 = 0 := by omega
          simp [many, none, inductionHypothesis]
  rw [duplicates, single, textCounts, List.map_map]
  rfl

/-- Each grammar is the first with its text, or a duplicate. -/
theorem unique_add_duplicates :
    survey.unique + survey.duplicates = survey.grammars.length := by
  rw [duplicates_eq_sum, unique, length_eraseDups_add_repetitions, List.length_map]

/-- The number of grammars with a property is read off their labels. -/
theorem countP_members
    (survey : Survey)
    (corpusClass : CorpusClass)
    (property : Int → Bool) :
    (survey.members corpusClass).countP (fun stored => property stored.size) =
      (survey.grammars.map StoredGrammar.label).countP
        fun label => label.1 = corpusClass && property label.2.1 := by
  unfold members
  rw [List.countP_filter, List.countP_map]
  refine List.countP_congr fun stored _ => ?_
  rw [Function.comp_apply, Bool.and_comm]
  exact Iff.rfl

/-- A size is reported with the number of grammars in the class that have it, if there are any. -/
theorem mem_bySize {corpusClass : CorpusClass} {size : Int} {count : Nat} :
    (size, count) ∈ survey.bySize corpusClass ↔
      0 < count ∧ ((survey.members corpusClass).map StoredGrammar.size).count size = count := by
  unfold bySize
  simp only [List.mem_map, List.mem_mergeSort, List.mem_eraseDups, Prod.mk.injEq]
  constructor
  · rintro ⟨other, ⟨stored, member, rfl⟩, rfl, rfl⟩
    exact ⟨List.count_pos_iff.2 (List.mem_map_of_mem member), rfl⟩
  · rintro ⟨positive, rfl⟩
    exact ⟨size, List.mem_map.1 (List.count_pos_iff.1 positive), rfl, rfl⟩

/-- The sizes of a class are reported by their increasing order. -/
theorem keys_bySize (corpusClass : CorpusClass) :
    (survey.bySize corpusClass).map Prod.fst =
      ((survey.members corpusClass).map StoredGrammar.size).eraseDups.mergeSort := by
  unfold bySize
  rw [List.map_map]
  exact List.map_id _

/-- If the grammars of a survey are those of the partitions, its numbers are theirs. -/
theorem reports_of_perm
    (unreadable : survey.unreadable = [])
    (arranged : survey.grammars.map StoredGrammar.label ~
      partitions.flatMap Partition.labels) :
    survey.Reports partitions where
  unreadable := unreadable
  bySize corpusClass size count := by
    have counted : ((survey.members corpusClass).map StoredGrammar.size).count size =
        Partition.ofSize partitions corpusClass size := by
      rw [← Partition.countP_ofSize, ← arranged.countP_eq, List.count, List.countP_map]
      exact (survey.countP_members corpusClass (· == size)).trans (List.countP_congr (by simp))
    rw [mem_bySize, counted, eq_comm (a := count)]
  sizes corpusClass := by
    rw [keys_bySize]
    exact (List.mergeSort_perm _ _).nodup_iff.2 (nodup_eraseDups _)
  total corpusClass := by
    have all := survey.countP_members corpusClass fun _ => true
    rw [List.countP_true, arranged.countP_eq] at all
    rw [all, ← Partition.countP_inClass]
    exact List.countP_congr (by simp)
  grammars := by
    rw [← Partition.length_labels, ← arranged.length_eq, List.length_map]
  unique := by
    have texts : survey.grammars.map StoredGrammar.text ~ Partition.texts partitions := by
      rw [Partition.texts_eq]
      have same := arranged.map fun label => label.2.2
      rwa [List.map_map] at same
    unfold Survey.unique
    rw [length_eraseDups, List.toFinset_eq_of_perm _ _ texts]
  duplicates := (Nat.add_comm _ _).trans unique_add_duplicates

end Survey

end GrammarCorpus
