import GrammarCorpus.Proofs.Corpus.Report
import GrammarCorpus.Proofs.Store.AllOrNothing

namespace GrammarCorpus

/-!
# The invariant of a corpus

A history begins with an output directory that is missing or empty. Whatever its batches
do, after every beginning of it the output directory is a corpus of the grammars that were
given: no staging directory is left, every file stands where its class and its size say,
and is a rendering of that size. A survey, which reads the corpus on its own, finds these
grammars and counts them right.

What a batch does to the tree is known from `Corpus.history_stocked`, what the tree looks
like then from `Stocked.isCorpus`, and what a survey makes of it from `Stocked.survey`.
-/

open FileTree Work

/-- What a history begins with: an output directory that is missing or empty. -/
structure Workspace.Prepared
    (machine : Machine)
    (output : Path)
    (workspace : Workspace) : Prop where
  ready : workspace.Ready machine output workspace.named
  vacant : workspace.tree.IsVacant machine.directory output
  short : ∀ corpusClass : CorpusClass,
    (output.child corpusClass.text).text.utf8ByteSize ≤ pathLimit

namespace Corpus

variable {machine : Machine} {output : Path} {start : Workspace}
variable {calls earlier : List BatchCall}

/-- A history goes on from where a beginning of it ended. -/
theorem history_append (earlier later : List BatchCall) (workspace : Workspace) :
    history machine output (earlier ++ later) workspace =
      ((history machine output earlier workspace).1 ++
        (history machine output later (history machine output earlier workspace).2).1,
        (history machine output later (history machine output earlier workspace).2).2) := by
  induction earlier generalizing workspace with
  | nil => rfl
  | cons call others inductionHypothesis =>
      simp only [List.cons_append, history, inductionHypothesis]

/-- What a beginning of a history gives is given by all of it. -/
theorem Cleared.of_beginning
    (cleared : Cleared machine output (history machine output calls start).1)
    (begins : earlier <+: calls) :
    Cleared machine output (history machine output earlier start).1 := by
  obtain ⟨later, rfl⟩ := begins
  rw [history_append] at cleared
  exact cleared.of_subset (List.subset_append_left _ _)

/-- What a survey finds of sound partitions are renderings of sizes within the bounds. -/
theorem labels_of_sound
    {entries : List (BatchCall × Except Failure Partition)}
    (sound : ∀ entry ∈ entries, ∀ partition, entry.2 = .ok partition →
      partition.IsSound output entry.1.size)
    {label : CorpusClass × Int × String}
    (member : label ∈ (given entries).flatMap Partition.labels) :
    (2 ≤ label.2.1 ∧ label.2.1 ≤ 26) ∧ IsRendering label.2.1 label.2.2 ∧
      ∀ part ∈ output.parts, FileWork.holdsNull part = false := by
  obtain ⟨partition, isGiven, isLabel⟩ := List.mem_flatMap.1 member
  obtain ⟨entry, isEntry, ends⟩ := mem_given isGiven
  have isSound := sound entry isEntry partition ends
  obtain ⟨item, isItem, rfl⟩ := List.mem_map.1 isLabel
  exact ⟨⟨isSound.least, isSound.greatest⟩, isSound.renderings item isItem,
    isSound.handed (List.ne_nil_of_mem isItem)⟩

/--
After every beginning of a history, the output directory is a corpus of the grammars that
were given, and the survey of it reports them.
-/
theorem history_surveyed
    (apart : machine.NamesApart)
    (prepared : start.Prepared machine output)
    (fit : ∀ call ∈ calls, call.Fits machine start.named)
    (cleared : Cleared machine output (history machine output calls start).1)
    (begins : earlier <+: calls) :
    let ended := history machine output earlier start
    ended.2.tree.HoldsCorpus machine.directory output (Partition.texts (given ended.1)) ∧
      (∀ entry ∈ ended.1, ∀ partition,
        entry.2 = .ok partition → partition.size = entry.1.size) ∧
      ∃ survey, ((Survey.ofDirectory output).run.perform machine ended.2).1 = .ok survey ∧
        survey.Reports (given ended.1) := by
  intro ended
  obtain ⟨ready, sound, stock, stocked⟩ := history_stocked apart
    (fun call member => fit call (begins.subset member)) prepared.ready
    (cleared.of_beginning begins)
  change ended.2.Ready machine output start.named at ready
  change ∀ entry ∈ ended.1, _ at sound
  change Stocked machine output start.tree ended.2.tree
    ((given ended.1).flatMap Partition.labels) stock at stocked
  generalize ended = ended at *
  have grounded := prepared.ready.grounded
  have straight := prepared.ready.straight
  have renderings : ∀ label ∈ (given ended.1).flatMap Partition.labels,
      IsRendering label.2.1 label.2.2 := fun label member => (labels_of_sound sound member).2.1
  have handed : stock ≠ [] → ∀ part ∈ output.parts, FileWork.holdsNull part = false := by
    intro some
    obtain ⟨holding, member⟩ := List.exists_mem_of_ne_nil stock some
    have isLabel := List.mem_map_of_mem (f := Holding.label) member
    rw [stocked.labels_eq] at isLabel
    exact (labels_of_sound sound isLabel).2.2
  refine ⟨?_, fun entry member partition ends => (sound entry member partition ends).size_eq, ?_⟩
  · rw [Partition.texts_eq]
    exact stocked.holdsCorpus apart
      (fun root leads location inside below => prepared.vacant.free_below
        stocked.receives.kept grounded straight leads inside below) renderings
  · obtain ⟨survey, surveyed, unreadable, arranged⟩ := stocked.survey apart ready.tidy.distinct
      ready.grounded prepared.vacant grounded straight handed prepared.short
      (fun label member => (labels_of_sound sound member).1) renderings
    exact ⟨survey, surveyed, Survey.reports_of_perm unreadable arranged⟩

end Corpus

/-- Where the tree is empty, a history can begin with any path that leads straight on. -/
theorem Workspace.prepared_of_empty
    {output : Path}
    (unreserved : output.Unreserved .calm 0)
    (plain : ".." ∉ output.parts)
    (short : ∀ corpusClass : CorpusClass,
      (output.child corpusClass.text).text.utf8ByteSize ≤ pathLimit)
    (vacant : FileTree.empty.IsVacant [] output) :
    ({ tree := .empty } : Workspace).Prepared .calm output where
  ready := {
    tidy := .of_empty rfl
    grounded := fun _ _ holds => nomatch holds
    home := rfl
    straight _ _ split :=
      absurd (split ▸ List.mem_append_right _ List.mem_cons_self) plain
    unreserved := unreserved }
  vacant := vacant
  short := short

namespace Corpus

/-- Two batches with a missing output directory, and what a survey reports after them. -/
theorem history_surveyed_of_two_calls :
    let output := Path.ofText "out"
    let start : Workspace := { tree := .empty }
    let accepted : BatchCall :=
      { config := .standard, size := 2, trials := 3, workers := 1, engines := Machine.calm.engines }
    let refused : BatchCall :=
      { config := .standard, size := 3, trials := 5, workers := 2,
        engines := fun _ _ => { outcome := .finished 1 .empty .empty } }
    let calls := [accepted, refused]
    let ended := history .calm output calls start
    (Machine.calm.NamesApart ∧
      start.Prepared .calm output ∧
      (∀ call ∈ calls, call.Fits .calm start.named) ∧
      Cleared .calm output ended.1 ∧
      calls <+: calls) ∧
    ended.2.tree.HoldsCorpus [] output (Partition.texts (given ended.1)) ∧
      (∀ entry ∈ ended.1, ∀ partition,
        entry.2 = .ok partition → partition.size = entry.1.size) ∧
      ∃ survey, ((Survey.ofDirectory output).run.perform .calm ended.2).1 = .ok survey ∧
        survey.Reports (given ended.1) := by
  intro output start accepted refused calls ended
  have isOutput : output = ⟨.relative, ["out"]⟩ := by decide
  have prepared : start.Prepared .calm output := by
    rw [isOutput]
    refine Workspace.prepared_of_empty ?_ (by decide) ?_ fun name => rfl
    · intro part member
      obtain rfl := List.mem_singleton.1 member
      exact (Machine.calm_spent (by decide) (by decide) (by decide)).notReserved
    · intro corpusClass
      cases corpusClass <;> decide
  have fit : ∀ call ∈ calls, call.Fits .calm start.named := by
    have named : Config.standard.IsNamedStandardly := ⟨rfl, rfl, rfl⟩
    have scratch : (Path.ofText Machine.calm.temporary).Unreserved .calm 0 := by
      intro part member
      rw [show (Path.ofText Machine.calm.temporary).parts = [] by decide] at member
      cases member
    have accepts : accepted.Fits .calm start.named :=
      ⟨by decide, by decide, named, nofun, fun value _ => Machine.calm_avoids value, scratch⟩
    have refuses : refused.Fits .calm start.named :=
      ⟨by decide, by decide, named, nofun, fun value _ => Machine.calm_avoids value, scratch⟩
    simpa [calls] using ⟨accepts, refuses⟩
  have cleared : Cleared .calm output ended.1 := .inl fun _ => rfl
  have whole : calls <+: calls := List.prefix_rfl
  exact ⟨⟨Machine.calm_namesApart, prepared, fit, cleared, whole⟩,
    history_surveyed Machine.calm_namesApart prepared fit cleared whole⟩

/--
Where the output path cannot be looked up at all, there is no survey: nothing has a name of
256 letters, and still it is an error to look for what is below.
-/
theorem survey_fails_of_long_name :
    let output : Path := ⟨.relative, [String.ofList (List.replicate 256 'n')]⟩
    let ended := history .calm output [] { tree := .empty }
    (∀ location, location ≠ [] → ended.2.tree.find? location = none) ∧
      given ended.1 = [] ∧
      ∀ survey, ((Survey.ofDirectory output).run.perform .calm ended.2).1 ≠ .ok survey := by
  intro output ended
  refine ⟨fun location below => Machine.find?_empty below, rfl, fun survey surveyed => ?_⟩
  have fails : ended.2.tree.resolve [] (output.child CorpusClass.lr1.text) =
      .error .nameTooLong := by
    decide +kernel
  have handed : FileWork.holdsNull (output.child CorpusClass.lr1.text).text = false := by
    have letters := Path.holdsNull_replicate (show 'n' ≠ Char.ofNat 0 by decide) 256
    rw [Path.holdsNull_text, Path.child_isName CorpusClass.lr1.isName_text]
    simp only [output, List.singleton_append, List.any_cons, letters]
    decide
  generalize output = output at *
  rw [Survey.perform_ofDirectory_of_error handed fails (by decide)] at surveyed
  cases surveyed

end Corpus

end GrammarCorpus
