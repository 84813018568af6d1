import GrammarCorpus.CommandLine.GrammarCommand
import GrammarCorpus.Proofs.Markup.Bare
import GrammarCorpus.Proofs.SampleReport

namespace GrammarCorpus

/-!
# How the command for random grammars ends

A command line that is accepted can still ask for what no grammar satisfies. Bounds are looked
at before anything is drawn, and a complaint about them ends the command with its exit status.
Sizes that the alphabets cannot name are not looked at: the generator refuses them in the midst
of the draws, and the command fails with the refusal. Nothing else but an argument that was
dropped makes it fail; in particular no grammar lacks a name, cannot be shown or be counted, as
long as the console prints tables without brackets.
-/

namespace GrammarCommand

/-- Some argument of the command was dropped. -/
def Drops : GrammarCommand → Prop
  | sample choices =>
      .dropped ∈ [choices.size, choices.count, choices.shown, choices.maxAlternatives,
        choices.maxSymbols, choices.seed]
  | validate choices =>
      .dropped ∈ [choices.count, choices.minSize, choices.maxSize, choices.seed]

/-- The bounds of the command leave nothing to choose from. -/
def IsUnsatisfiable : GrammarCommand → Prop
  | sample choices =>
      (∃ greatest, choices.maxAlternatives = .of greatest ∧ greatest < 1) ∨
        ∃ greatest, choices.maxSymbols = .of greatest ∧ greatest < 1
  | validate choices =>
      ∃ least, choices.minSize = .of least ∧
        (least < 2 ∨ ∃ greatest, choices.maxSize = .of greatest ∧ greatest < least)

/-- The sizes in which the command may want a grammar. -/
def MayWant (size : Int) : GrammarCommand → Prop
  | sample choices =>
      choices.size = .of size ∧ ∃ count, choices.count = .of count ∧ 0 < count
  | validate choices =>
      (∃ least greatest, choices.minSize = .of least ∧ choices.maxSize = .of greatest ∧
        least ≤ size ∧ size ≤ greatest) ∧
        ∃ count, choices.count = .of count ∧ 0 < count

/-- The failure of the command when a grammar cannot be drawn. -/
def drawFailure (error : GenerationError) : GrammarCommand → GrammarFailure
  | sample _ => .sample (.generation error)
  | validate _ => .validation (.generation error)

end GrammarCommand

/-- The bounds of settings leave something to choose from. -/
def Settings.IsOrdered (settings : Settings) : Prop :=
  (1 ≤ settings.minAlternatives ∧ settings.minAlternatives ≤ settings.maxAlternatives) ∧
    (0 ≤ settings.minSymbols ∧ settings.minSymbols ≤ settings.maxSymbols) ∧
    (1 ≤ settings.rootMinSymbols ∧ settings.rootMinSymbols ≤ settings.maxSymbols)

instance (settings : Settings) : Decidable settings.IsOrdered :=
  inferInstanceAs (Decidable (_ ∧ _))

/-- Settings are accepted as they are, or there is a complaint about their bounds. -/
theorem Settings.check_cases (settings : Settings) :
    (¬ settings.IsOrdered ∧ ∃ error, settings.check = .error error) ∨
      settings.IsOrdered ∧ ∃ config, settings.check = .ok config ∧
        config.toSettings = settings := by
  rw [check]
  split
  next alternatives =>
    split
    next symbols =>
      split
      next rootSymbols => exact .inr ⟨⟨alternatives, symbols, rootSymbols⟩, _, rfl, rfl⟩
      next fault => exact .inl ⟨fun ordered => fault ordered.2.2, _, rfl⟩
    next fault => exact .inl ⟨fun ordered => fault ordered.2.1, _, rfl⟩
  next fault => exact .inl ⟨fun ordered => fault ordered.1, _, rfl⟩

namespace SampleChoices

variable {choices : SampleChoices}

/-- The settings are looked at once with one of the two bounds, and then with both. -/
theorem check_cases (settings : Settings) :
    (¬ settings.IsOrdered ∧ ∃ text, check settings = .error (.complaint text)) ∨
      settings.IsOrdered ∧ ∃ config, check settings = .ok config ∧
        config.toSettings = settings := by
  rcases settings.check_cases with ⟨fault, error, fails⟩ | ⟨ordered, config, succeeds, same⟩
  · exact .inl ⟨fault, error.message, by rw [check, fails]; rfl⟩
  · exact .inr ⟨ordered, config, by rw [check, succeeds]; rfl, same⟩

/-- Beside the other settings as they are, two bounds leave something to choose from. -/
theorem isOrdered_iff {maxAlternatives maxSymbols : Int} :
    ({ maxAlternatives, maxSymbols } : Settings).IsOrdered ↔
      1 ≤ maxAlternatives ∧ 1 ≤ maxSymbols := by
  unfold Settings.IsOrdered
  dsimp only
  omega

section Config

variable {size count shown maxSymbols seed : Argument Int} {plain : Bool}
variable {maxAlternatives greatest : Int}

/-- The first bound is complained about before anything is known of the second. -/
theorem config_of_fault
    {text : String}
    (fails : check { maxAlternatives } = .error (.complaint text)) :
    config ⟨size, count, shown, .of maxAlternatives, maxSymbols, seed, plain⟩ =
      .error (.complaint text) := by
  change (check { maxAlternatives } >>= _) = _
  rw [fails]
  rfl

/-- Behind the first bound, the second one is needed. -/
theorem config_of_ok
    {first : Config}
    (succeeds : check { maxAlternatives } = .ok first) :
    config ⟨size, count, shown, .of maxAlternatives, maxSymbols, seed, plain⟩ = do
      let maxSymbols ← maxSymbols.needed (.comparison "<=" false)
      let config ← check { maxAlternatives, maxSymbols }
      return { config with seed := some (← seed.needed .seed) } := by
  change (check { maxAlternatives } >>= _) = _
  rw [succeeds]
  rfl

/-- The second bound is complained about together with the first. -/
theorem config_of_secondFault
    {first : Config}
    {text : String}
    (succeeds : check { maxAlternatives } = .ok first)
    (fails : check { maxAlternatives, maxSymbols := greatest } = .error (.complaint text)) :
    config ⟨size, count, shown, .of maxAlternatives, .of greatest, seed, plain⟩ =
      .error (.complaint text) := by
  rw [config_of_ok succeeds]
  change (check { maxAlternatives, maxSymbols := greatest } >>= _) = _
  rw [fails]
  rfl

/-- Behind both bounds, the seed is needed. -/
theorem config_of_secondOk
    {first second : Config}
    (succeeds : check { maxAlternatives } = .ok first)
    (succeedsToo : check { maxAlternatives, maxSymbols := greatest } = .ok second)
    (size count shown seed : Argument Int)
    (plain : Bool) :
    config ⟨size, count, shown, .of maxAlternatives, .of greatest, seed, plain⟩ = do
      return { second with seed := some (← seed.needed .seed) } := by
  rw [config_of_ok succeeds]
  change (check { maxAlternatives, maxSymbols := greatest } >>= _) = _
  rw [succeedsToo]
  rfl

end Config

/-- The bounds that are given are complained about, or amount to a configuration. -/
theorem config_cases (choices : SampleChoices) :
    ((GrammarCommand.sample choices).IsUnsatisfiable ∧
        ∃ text, choices.config = .error (.complaint text)) ∨
      ((GrammarCommand.sample choices).Drops ∧
        ∃ misuse, choices.config = .error (.failure (.argument misuse))) ∨
      ¬ (GrammarCommand.sample choices).IsUnsatisfiable ∧
        ∃ config, choices.config = .ok config ∧ config.IsNamedStandardly := by
  obtain ⟨size, count, shown, maxAlternatives, maxSymbols, seed, plain⟩ := choices
  cases maxAlternatives with
  | dropped => exact .inr (.inl ⟨by simp [GrammarCommand.Drops], _, rfl⟩)
  | of maxAlternatives =>
      rcases check_cases { maxAlternatives } with
        ⟨fault, text, fails⟩ | ⟨ordered, first, succeeds, -⟩
      · rw [isOrdered_iff] at fault
        exact .inl ⟨.inl ⟨_, rfl, by omega⟩, text, config_of_fault fails⟩
      · have someAlternative := (isOrdered_iff.1 ordered).1
        cases maxSymbols with
        | dropped =>
            exact .inr (.inl ⟨by simp [GrammarCommand.Drops], _, config_of_ok succeeds⟩)
        | of maxSymbols =>
            rcases check_cases { maxAlternatives, maxSymbols } with
              ⟨fault, text, fails⟩ | ⟨ordered, second, succeedsToo, same⟩
            · rw [isOrdered_iff] at fault
              exact .inl ⟨.inr ⟨_, rfl, by omega⟩, text, config_of_secondFault succeeds fails⟩
            · have isConfig := config_of_secondOk succeeds succeedsToo size count shown seed plain
              cases seed with
              | dropped => exact .inr (.inl ⟨by simp [GrammarCommand.Drops], _, isConfig⟩)
              | of seed =>
                  refine .inr (.inr ⟨?_, _, isConfig, ?_⟩)
                  · rw [isOrdered_iff] at ordered
                    rintro (⟨_, isGreatest, none⟩ | ⟨_, isGreatest, none⟩) <;>
                      cases isGreatest <;> omega
                  · exact ⟨(congrArg Settings.nonterminalAlphabet same :),
                      (congrArg Settings.terminalAlphabet same :),
                      (congrArg Settings.rootName same :)⟩

/-- A sample is shown in full, or not for want of an argument. -/
theorem shownOf_cases (choices : SampleChoices) (sample : Sample) :
    (∃ shown, choices.shownOf sample = .ok shown) ∨
      (GrammarCommand.sample choices).Drops ∧
        ∃ misuse, choices.shownOf sample = .error (.failure (.argument misuse)) := by
  rw [shownOf]
  split
  · exact .inl ⟨_, rfl⟩
  · cases shown : choices.shown with
    | of value => exact .inl ⟨_, rfl⟩
    | dropped => exact .inr ⟨by simp [GrammarCommand.Drops, shown], _, rfl⟩

/--
The number and the size of the grammars are known where a grammar is wanted, and for none no
size is needed.
-/
theorem countAndSize_cases (choices : SampleChoices) :
    ((GrammarCommand.sample choices).Drops ∧
        ∃ misuse, choices.countAndSize = .error (.failure (.argument misuse))) ∨
      ∃ count size, choices.countAndSize = .ok (count, size) ∧ choices.count = .of count ∧
        (count ≤ 0 ∨ choices.size = .of size) := by
  obtain ⟨size, count, shown, maxAlternatives, maxSymbols, seed, plain⟩ := choices
  cases count with
  | dropped => exact .inl ⟨by simp [GrammarCommand.Drops], _, rfl⟩
  | of count =>
      by_cases some : 0 < count
      · cases size with
        | dropped => exact .inl ⟨by simp [GrammarCommand.Drops], _, if_pos some⟩
        | of size => exact .inr ⟨count, size, if_pos some, rfl, .inr rfl⟩
      · exact .inr ⟨count, _, if_neg some, rfl, .inl (Int.not_lt.1 some)⟩

section Report

variable {choices : SampleChoices} {console : Console} {config : Config} {count size : Int}
variable (isConfig : choices.config = .ok config)
variable (isWanted : choices.countAndSize = .ok (count, size))

include isConfig isWanted

/-- Behind the arguments, the sample is drawn. -/
theorem report_eq :
    choices.report console = match config.sample size count with
      | .error error => .error (.failure (.sample (.generation error)))
      | .ok sample => do
          return sample.report console size (← choices.shownOf sample) choices.plain := by
  rw [report, isConfig, isWanted]
  rfl

/-- A sample that can be shown is reported on, or not for want of an argument. -/
theorem report_of_showable
    {sample : Sample}
    (prints : console.PrintsUntagged)
    (drawn : config.sample size count = .ok sample)
    (showable : ∀ grammar ∈ sample.grammars, grammar.IsShowable) :
    (∃ report, choices.report console = .ok report ∧ report.result = .ok ()) ∨
      (GrammarCommand.sample choices).Drops ∧
        ∃ misuse, choices.report console = .error (.failure (.argument misuse)) := by
  have shape : choices.report console = do
      return sample.report console size (← choices.shownOf sample) choices.plain := by
    rw [report_eq isConfig isWanted, drawn]
  rcases choices.shownOf_cases sample with ⟨shown, isShown⟩ | ⟨drops, misuse, fails⟩
  · rw [isShown] at shape
    exact .inl ⟨_, shape, Sample.report_result prints showable size shown choices.plain⟩
  · rw [fails] at shape
    exact .inr ⟨drops, misuse, shape⟩

end Report

/-- How the report on a sample ends. -/
theorem report_cases
    {console : Console}
    (prints : console.PrintsUntagged)
    (choices : SampleChoices) :
    ((GrammarCommand.sample choices).IsUnsatisfiable ∧
        ∃ text, choices.report console = .error (.complaint text)) ∨
      ((GrammarCommand.sample choices).Drops ∧
        ∃ misuse, choices.report console = .error (.failure (.argument misuse))) ∨
      ¬ (GrammarCommand.sample choices).IsUnsatisfiable ∧
        ((∃ size, (GrammarCommand.sample choices).MayWant size ∧
            ¬ Config.standard.Allows size ∧
            choices.report console =
              .error (.failure (.sample (.generation (Config.refusal size))))) ∨
          (∀ size, (GrammarCommand.sample choices).MayWant size →
            Config.standard.Allows size) ∧
          ∃ report, choices.report console = .ok report ∧ report.result = .ok ()) := by
  rcases config_cases choices with
    ⟨unsatisfiable, text, fails⟩ | ⟨drops, misuse, fails⟩ |
      ⟨satisfiable, config, isConfig, standard⟩
  · refine .inl ⟨unsatisfiable, text, ?_⟩
    rw [report, fails]
    rfl
  · refine .inr (.inl ⟨drops, misuse, ?_⟩)
    rw [report, fails]
    rfl
  · rcases countAndSize_cases choices with
      ⟨drops, misuse, fails⟩ | ⟨count, size, isWanted, isCount, isSize⟩
    · refine .inr (.inl ⟨drops, misuse, ?_⟩)
      rw [report, isConfig, fails]
      rfl
    · by_cases some : 0 < count
      -- A size matters only if some grammar is wanted, and then it is the only one.
      · have isSize := isSize.resolve_left (Int.not_le.2 some)
        have onlySize : ∀ other, (GrammarCommand.sample choices).MayWant other →
            other = size := by
          rintro other ⟨isOther, -⟩
          exact (Argument.of.inj (isSize.symm.trans isOther)).symm
        by_cases allowed : Config.standard.Allows size
        · obtain ⟨sample, drawn, showable⟩ :=
            Config.exists_sample standard ((Validation.allows_iff standard).2 allowed) count
          rcases report_of_showable isConfig isWanted prints drawn showable with complete | drops
          · exact .inr (.inr ⟨satisfiable, .inr
              ⟨fun other wanted => onlySize other wanted ▸ allowed, complete⟩⟩)
          · exact .inr (.inl drops)
        · have refused := Config.sample_of_not_allows
            (fun allows => allowed ((Validation.allows_iff standard).1 allows)) some
          have shape : choices.report console = _ := report_eq isConfig isWanted
          rw [refused] at shape
          exact .inr (.inr ⟨satisfiable, .inl
            ⟨size, ⟨isSize, count, isCount, some⟩, allowed, shape⟩⟩)
      · have drawn : config.sample size count = .ok .empty :=
          Config.sample_of_none (Int.not_lt.1 some)
        have showable : ∀ grammar ∈ Sample.empty.grammars, grammar.IsShowable :=
          fun _ member => absurd member List.not_mem_nil
        rcases report_of_showable isConfig isWanted prints drawn showable with complete | drops
        · refine .inr (.inr ⟨satisfiable, .inr ⟨?_, complete⟩⟩)
          rintro other ⟨-, wanted, isToo, positive⟩
          obtain rfl := Argument.of.inj (isCount.symm.trans isToo)
          exact absurd positive some
        · exact .inr (.inl drops)

end SampleChoices

namespace Config

variable {config : Config} {minSize maxSize : Int}

/-- If no size between the bounds can be asked for, draws give nothing. -/
theorem draw_gives_of_not_allows
    {σ : Type}
    [RandomSource σ]
    [LawfulRandomSource σ]
    {drawn : List Validation.Drawn}
    (ordered : minSize ≤ maxSize)
    (refused : ∀ size, minSize ≤ size → size ≤ maxSize → ¬ config.Allows size)
    (count : Nat) :
    (Validation.draw config minSize maxSize (count + 1) drawn :
      Draw σ (List Validation.Drawn)).Gives fun _ => False := by
  refine (Draw.between_gives ordered).bind fun size bounds => ?_
  have nothing : (config.generate size : Draw σ (Option Grammar)).Gives fun _ => False := by
    intro state value gives
    rw [generate_of_not_allows (refused size bounds.1 bounds.2)] at gives
    cases gives
  exact nothing.bind fun _ impossible => impossible.elim

/--
With the standard names a validation comes to its verdict, or its draws end with the refusal of
a size that the alphabets cannot name. It needs a size that they can name, unless nothing is
drawn.
-/
theorem validation_cases
    (standard : config.IsNamedStandardly)
    (ordered : minSize ≤ maxSize)
    (attempts : Int) :
    (attempts ≤ 0 ∨ ∃ size, minSize ≤ size ∧ size ≤ maxSize ∧ config.Allows size) ∧
        (∃ passed, (config.validation attempts minSize maxSize).result = .ok passed) ∨
      0 < attempts ∧ ∃ size, minSize ≤ size ∧ size ≤ maxSize ∧ ¬ config.Allows size ∧
        (config.validation attempts minSize maxSize).result =
          .error (.generation (refusal size)) := by
  cases ends : ((Validation.draw config minSize maxSize attempts.toNat []).run.run
      (Mersenne.ofSeed (config.seed.getD defaultSeed))).1 with
  | ok drawn =>
      obtain ⟨more, rfl, -, passes⟩ :=
        Validation.draw_gives standard ordered attempts.toNat _ drawn ends
      refine .inl ⟨?_, ?_⟩
      · by_contra! impossible
        obtain ⟨some, refused⟩ := impossible
        obtain ⟨count, isCount⟩ : ∃ count, attempts.toNat = count + 1 :=
          Nat.exists_eq_succ_of_ne_zero (by omega)
        rw [isCount] at ends
        exact draw_gives_of_not_allows ordered refused count _ _ ends
      · rw [validation_of_draw ends,
          Validation.report_of_passes attempts.toNat fun item member => (passes item member).2]
        exact ⟨_, rfl⟩
  | error error =>
      obtain ⟨size, above, below, refused, rfl⟩ :=
        Validation.draw_failsOnly_refusal standard ordered attempts.toNat _ error ends
      have some : 0 < attempts := by
        by_contra none
        rw [Int.toNat_of_nonpos (Int.not_lt.1 none)] at ends
        cases ends
      refine .inr ⟨some, size, above, below, refused, ?_⟩
      rw [StateT.run] at ends
      unfold validation
      simp only [ends]

end Config

namespace ValidationChoices

/-- The bounds for sizes are complained about, or are in order. -/
theorem sizes_cases (choices : ValidationChoices) :
    ((GrammarCommand.validate choices).IsUnsatisfiable ∧
        ∃ text, choices.sizes = .error (.complaint text)) ∨
      ((GrammarCommand.validate choices).Drops ∧
        ∃ misuse, choices.sizes = .error (.failure (.argument misuse))) ∨
      ¬ (GrammarCommand.validate choices).IsUnsatisfiable ∧
        ∃ minSize maxSize, choices.sizes = .ok (minSize, maxSize) ∧
          choices.minSize = .of minSize ∧ choices.maxSize = .of maxSize ∧
          minSize ≤ maxSize := by
  obtain ⟨count, minSize, maxSize, seed⟩ := choices
  cases minSize with
  | dropped => exact .inr (.inl ⟨by simp [GrammarCommand.Drops], _, rfl⟩)
  | of minSize =>
      by_cases small : minSize < 2
      · exact .inl ⟨⟨minSize, rfl, .inl small⟩, _, if_pos small⟩
      · cases maxSize with
        | dropped => exact .inr (.inl ⟨by simp [GrammarCommand.Drops], _, if_neg small⟩)
        | of maxSize =>
            by_cases crossed : maxSize < minSize
            · exact .inl ⟨⟨minSize, rfl, .inr ⟨maxSize, rfl, crossed⟩⟩, _,
                (if_neg small).trans (if_pos crossed)⟩
            · refine .inr (.inr ⟨?_, minSize, maxSize, (if_neg small).trans (if_neg crossed),
                rfl, rfl, Int.not_lt.1 crossed⟩)
              rintro ⟨_, isLeast, small' | ⟨_, isGreatest, crossed'⟩⟩ <;> cases isLeast
              · exact small small'
              · cases isGreatest
                exact crossed crossed'

/-- The seed and the number of draws are given, or an argument is missed. -/
theorem configAndCount_cases (choices : ValidationChoices) :
    ((GrammarCommand.validate choices).Drops ∧
        ∃ misuse, choices.configAndCount = .error misuse) ∨
      ∃ config count, choices.configAndCount = .ok (config, count) ∧
        config.IsNamedStandardly ∧ choices.count = .of count := by
  obtain ⟨count, minSize, maxSize, seed⟩ := choices
  cases seed with
  | dropped => exact .inl ⟨by simp [GrammarCommand.Drops], _, rfl⟩
  | of seed =>
      cases count with
      | dropped => exact .inl ⟨by simp [GrammarCommand.Drops], _, rfl⟩
      | of count => exact .inr ⟨_, count, rfl, ⟨rfl, rfl, rfl⟩, rfl⟩

end ValidationChoices

namespace GrammarCommand

/-- The ends of a command that was accepted, told from its arguments. -/
def EndsIn (command : GrammarCommand) (transcript : Transcript GrammarFailure) : Prop :=
  (command.IsUnsatisfiable ∧
      ∃ text, transcript = ⟨"", "[ERROR: " ++ text ++ "]\n", .exit 2⟩) ∨
    (command.Drops ∧ ∃ misuse, transcript.ending = .failed (.argument misuse)) ∨
    ¬ command.IsUnsatisfiable ∧
      ((∃ size, command.MayWant size ∧ ¬ Config.standard.Allows size ∧
          transcript.ending = .failed (command.drawFailure (Config.refusal size))) ∨
        ((∃ size, command.MayWant size) →
            ∃ size, command.MayWant size ∧ Config.standard.Allows size) ∧
          transcript.ending ∈ [.finished, .exit 0, .exit 1])

/-- A sample is shown, or not in one of the ways that are told. -/
theorem runSample_endsIn
    {console : Console}
    (prints : console.PrintsUntagged)
    (choices : SampleChoices) :
    (sample choices).EndsIn (runSample console choices) := by
  rcases choices.report_cases prints with
    ⟨unsatisfiable, text, fails⟩ | ⟨drops, misuse, fails⟩ |
      ⟨satisfiable, ⟨size, wanted, refused, fails⟩ | ⟨allowed, report, succeeds, complete⟩⟩
  · refine .inl ⟨unsatisfiable, text, ?_⟩
    rw [runSample, fails]
    rfl
  · refine .inr (.inl ⟨drops, misuse, ?_⟩)
    rw [runSample, fails]
    rfl
  · refine .inr (.inr ⟨satisfiable, .inl ⟨size, wanted, refused, ?_⟩⟩)
    rw [runSample, fails]
    rfl
  · have ending : (runSample console choices).ending = .finished := by
      rw [runSample, succeeds]
      simp only [complete]
      rfl
    refine .inr (.inr ⟨satisfiable, .inr ⟨?_, ?_⟩⟩)
    · rintro ⟨size, wanted⟩
      exact ⟨size, wanted, allowed size wanted⟩
    · rw [ending]
      exact List.mem_cons_self

/-- A validation comes to its verdict, or not in one of the ways that are told. -/
theorem runValidation_endsIn (choices : ValidationChoices) :
    (validate choices).EndsIn (runValidation choices) := by
  rcases choices.sizes_cases with
    ⟨unsatisfiable, text, fails⟩ | ⟨drops, misuse, fails⟩ |
      ⟨satisfiable, minSize, maxSize, inOrder, isLeast, isGreatest, ordered⟩
  · refine .inl ⟨unsatisfiable, text, ?_⟩
    rw [runValidation, fails]
    rfl
  · refine .inr (.inl ⟨drops, misuse, ?_⟩)
    rw [runValidation, fails]
    rfl
  · rcases choices.configAndCount_cases with
      ⟨drops, misuse, fails⟩ | ⟨config, count, succeeds, standard, isCount⟩
    · refine .inr (.inl ⟨drops, misuse, ?_⟩)
      rw [runValidation, inOrder, fails]
    · have between : ∀ size, minSize ≤ size → size ≤ maxSize → 0 < count →
          (validate choices).MayWant size := fun size above below some =>
        ⟨⟨minSize, maxSize, isLeast, isGreatest, above, below⟩, count, isCount, some⟩
      refine .inr (.inr ⟨satisfiable, ?_⟩)
      rcases Config.validation_cases standard ordered count with
        ⟨wanted, passed, result⟩ | ⟨some, size, above, below, refused, result⟩
      · have ending : (runValidation choices).ending = .exit (if passed then 0 else 1) := by
          rw [runValidation, inOrder, succeeds]
          simp only [result]
        refine .inr ⟨?_, ?_⟩
        · rintro ⟨_, -, other, isOther, positive⟩
          obtain rfl := Argument.of.inj (isCount.symm.trans isOther)
          obtain ⟨size, above, below, allowed⟩ := wanted.resolve_left (Int.not_le.2 positive)
          exact ⟨size, between size above below positive,
            (Validation.allows_iff standard).1 allowed⟩
        · rw [ending]
          cases passed <;> decide
      · refine .inl ⟨size, between size above below some,
          fun allowed => refused ((Validation.allows_iff standard).2 allowed), ?_⟩
        rw [runValidation, inOrder, succeeds]
        simp only [result]
        rfl

/--
A command line that is accepted ends as its arguments tell. If its bounds leave nothing to choose
from, there is a complaint, and the exit status is two. An argument that was dropped may be
missed. Otherwise the command fails exactly with the refusal of a size that it wanted and the
alphabets cannot name; so if all sizes that it may want can be named, it ends by itself or with
the verdict of the validation, and if none of them can be named while some grammar is wanted, it
does not.
-/
theorem carryOut_endsIn
    {console : Console}
    {words : List String}
    {command : GrammarCommand}
    (prints : console.PrintsUntagged)
    (accepted : read words = .ok command) :
    command.EndsIn (carryOut console words) := by
  rw [carryOut, accepted]
  cases command with
  | sample choices => exact runSample_endsIn prints choices
  | validate choices => exact runValidation_endsIn choices

/-- A validation of all sizes that the alphabets can name ends with its verdict. -/
theorem carryOut_endsIn_of_nameable :
    Console.page.PrintsUntagged ∧
      read ["validate", "--n", "5", "--max-size", "26"] =
        .ok (.validate { count := .of 5, maxSize := .of 26 }) ∧
      (carryOut .page ["validate", "--n", "5", "--max-size", "26"]).ending ∈
        [.finished, .exit 0, .exit 1] := by
  have accepted : read ["validate", "--n", "5", "--max-size", "26"] =
      .ok (.validate { count := .of 5, maxSize := .of 26 }) := by
    decide +kernel
  refine ⟨Console.page_printsUntagged, accepted, ?_⟩
  rcases carryOut_endsIn Console.page_printsUntagged accepted with
    ⟨⟨least, isLeast, fault⟩, -⟩ | ⟨drops, -⟩ | ⟨-, ⟨size, ⟨bounds, -⟩, refused, -⟩ | ⟨-, ending⟩⟩
  · cases isLeast
    rcases fault with small | ⟨greatest, isGreatest, crossed⟩
    · exact absurd small (by decide)
    · cases isGreatest
      exact absurd crossed (by decide)
  · exact absurd drops (by simp [Drops])
  · obtain ⟨least, greatest, isLeast, isGreatest, above, below⟩ := bounds
    cases isLeast
    cases isGreatest
    refine absurd ⟨above, ?_⟩ refused
    rw [Validation.maxSize_eq ⟨rfl, rfl, rfl⟩]
    exact_mod_cast below
  · exact ending

/--
A sample of 27 rules is accepted, although there are 26 letters, and its first draw makes the
command fail.
-/
theorem carryOut_fails_of_greatSize :
    read ["sample", "--size", "27"] = .ok (.sample { size := .of 27 }) ∧
      (carryOut .page ["sample", "--size", "27"]).ending =
        .failed (.sample (.generation (.alphabetTooSmall 27))) ∧
      ¬ ∀ words command, read words = .ok command →
        (carryOut .page words).ending ∈ [.finished, .exit 0, .exit 1, .exit 2] := by
  have accepted : read ["sample", "--size", "27"] = .ok (.sample { size := .of 27 }) := by
    decide +kernel
  have fails : (carryOut .page ["sample", "--size", "27"]).ending =
      .failed (.sample (.generation (.alphabetTooSmall 27))) := by
    have wanted : (sample { size := .of 27 }).MayWant 27 := ⟨rfl, 10, rfl, by decide⟩
    rw [carryOut, accepted]
    rcases runSample_endsIn Console.page_printsUntagged { size := .of 27 } with
      ⟨fault, -⟩ | ⟨drops, -⟩ | ⟨-, ⟨size, ⟨isSize, -⟩, -, ending⟩ | ⟨allowed, -⟩⟩
    · rcases fault with ⟨greatest, isGreatest, none⟩ | ⟨greatest, isGreatest, none⟩ <;>
        cases isGreatest <;> exact absurd none (by decide)
    · exact absurd drops (by simp [Drops])
    · cases isSize
      exact ending
    · obtain ⟨size, ⟨isSize, -⟩, allowed⟩ := allowed ⟨27, wanted⟩
      cases isSize
      exact absurd allowed (by decide +kernel)
  refine ⟨accepted, fails, fun ends => ?_⟩
  have ending := ends _ _ accepted
  rw [fails] at ending
  simp at ending

end GrammarCommand

end GrammarCorpus
