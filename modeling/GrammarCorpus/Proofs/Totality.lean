import GrammarCorpus.Proofs.Failure
import GrammarCorpus.Proofs.Tape

namespace GrammarCorpus

/-!
# When generation cannot fail

A size that the alphabets do not allow is refused before anything is drawn. For all others the
generator ends with a grammar or with none, unless it can happen that every selected name is that
of the root and a root alternative may have a single symbol. Then there are answers on which it
has no name to choose.
-/

namespace Config

/--
Whether a root alternative of one symbol may find no name: there are so many letters like the
name of the root that they can be all that is selected.
-/
structure MayLackNames (config : Config) (size : Int) : Prop where
  single : config.rootMinSymbols = 1
  draws : 1 ≤ config.maxRetries
  enough : size - 1 ≤ (letters config.nonterminalAlphabet).count config.rootName

instance (config : Config) (size : Int) : Decidable (config.MayLackNames size) :=
  decidable_of_iff
    (config.rootMinSymbols = 1 ∧ 1 ≤ config.maxRetries ∧
      size - 1 ≤ (letters config.nonterminalAlphabet).count config.rootName)
    ⟨fun holds => ⟨holds.1, holds.2.1, holds.2.2⟩,
      fun lacks => ⟨lacks.single, lacks.draws, lacks.enough⟩⟩

/-- Names cannot be lacking where no letter is the name of the root. -/
theorem not_mayLackNames_of_notMem
    {config : Config}
    {size : Int}
    (outside : config.rootName ∉ letters config.nonterminalAlphabet)
    (two_le : 2 ≤ size) :
    ¬ config.MayLackNames size := by
  intro lacks
  have enough := lacks.enough
  rw [List.count_eq_zero_of_not_mem outside] at enough
  omega

/-- The sizes that can be asked for. -/
def Allows (config : Config) (size : Int) : Prop :=
  2 ≤ size ∧ size ≤ config.maxSize

instance (config : Config) (size : Int) : Decidable (config.Allows size) :=
  inferInstanceAs (Decidable (_ ∧ _))

/-- The complaint about a size that cannot be asked for. -/
def refusal (size : Int) : GenerationError :=
  if size < 2 then .sizeTooSmall size else .alphabetTooSmall size

variable {config : Config} {size : Int}

section Refused

variable {σ : Type} [RandomSource σ]

/-- Letters for a size that cannot be asked for are refused without a draw. -/
theorem selectAlphabet_of_not_allows (refused : ¬ config.Allows size) :
    (config.selectAlphabet size : Draw σ (List String × List String)) = throw (refusal size) := by
  unfold selectAlphabet refusal
  split
  · rfl
  · have large : config.maxSize < size := by
      rw [Allows] at refused
      omega
    rw [if_pos large]

/-- So is a grammar of such a size. -/
theorem generate_of_not_allows
    (refused : ¬ config.Allows size)
    (state : σ) :
    (config.generate size : Draw σ (Option Grammar)).run.run state =
      (.error (refusal size), state) := by
  unfold generate
  rw [selectAlphabet_of_not_allows refused]
  rfl

/-- A size below two is refused as too small. -/
theorem generate_of_tooSmall (small : size < 2) (state : σ) :
    (config.generate size : Draw σ (Option Grammar)).run.run state =
      (.error (.sizeTooSmall size), state) := by
  rw [generate_of_not_allows fun allowed => Int.not_lt.2 allowed.1 small, refusal, if_pos small]

/-- A size that the alphabets cannot name is refused for them. -/
theorem generate_of_tooLarge
    (least : 2 ≤ size)
    (large : config.maxSize < size)
    (state : σ) :
    (config.generate size : Draw σ (Option Grammar)).run.run state =
      (.error (.alphabetTooSmall size), state) := by
  rw [generate_of_not_allows fun allowed => Int.not_lt.2 allowed.2 large, refusal,
    if_neg (Int.not_lt.2 least)]

/-- Any other size is not refused. -/
theorem selectAlphabet_of_le
    (least : 2 ≤ size)
    (greatest : size ≤ config.maxSize) :
    (config.selectAlphabet size : Draw σ (List String × List String)) = do
      let nonterminals ← Draw.sample (letters config.nonterminalAlphabet) (size.toNat - 1)
      let terminals ← Draw.sample (letters config.terminalAlphabet) size.toNat
      return (nonterminals, terminals) := by
  unfold selectAlphabet
  rw [if_neg (Int.not_lt.2 least), if_neg (Int.not_lt.2 greatest)]

end Refused

/-- The alphabets have as many letters as a size demands that they can name. -/
theorem enough_letters (greatest : size ≤ config.maxSize) :
    size.toNat - 1 ≤ (letters config.nonterminalAlphabet).length ∧
      size.toNat ≤ (letters config.terminalAlphabet).length := by
  simp only [letters, List.length_map]
  unfold Settings.maxSize at greatest
  omega

section Lawful

variable {σ : Type} [RandomSource σ] [LawfulRandomSource σ]

/-- Where the alphabets allow the size, the selection does not fail. -/
theorem selectAlphabet_failsOnly
    {allowed : GenerationError → Prop}
    (least : 2 ≤ size)
    (greatest : size ≤ config.maxSize) :
    (config.selectAlphabet size : Draw σ (List String × List String)).FailsOnly allowed := by
  rw [selectAlphabet_of_le least greatest]
  obtain ⟨enoughNames, enoughTerminals⟩ := enough_letters greatest
  refine (Draw.sample_failsOnly enoughNames).andThen fun nonterminals => ?_
  exact (Draw.sample_failsOnly enoughTerminals).andThen fun terminals => .pure _

/-- No letter is selected more often than the alphabets hold it. -/
theorem selectAlphabet_gives_subperm
    (least : 2 ≤ size)
    (greatest : size ≤ config.maxSize) :
    (config.selectAlphabet size : Draw σ (List String × List String)).Gives fun selected =>
      (selected.1.length + 1 = size ∧
        selected.1.Subperm (letters config.nonterminalAlphabet)) ∧
      (selected.2.length = size ∧
        selected.2.Subperm (letters config.terminalAlphabet)) := by
  rw [selectAlphabet_of_le least greatest]
  obtain ⟨enoughNames, enoughTerminals⟩ := enough_letters greatest
  refine (Draw.sample_gives_subperm enoughNames).bind ?_
  rintro nonterminals ⟨length, isPart⟩
  refine (Draw.sample_gives_subperm enoughTerminals).bind ?_
  rintro terminals ⟨lengthToo, isPartToo⟩
  refine .pure ⟨⟨?_, isPart⟩, ?_, isPartToo⟩
  · rw [length]
    omega
  · rw [lengthToo]
    omega

/-- Generation fails only for want of a name, and only where names may be lacking. -/
theorem generate_failsOnly
    (least : 2 ≤ size)
    (greatest : size ≤ config.maxSize) :
    (config.generate size : Draw σ (Option Grammar)).FailsOnly fun error =>
      error = .nothingToChoose ∧ config.MayLackNames size := by
  refine (selectAlphabet_failsOnly least greatest).bind
    (selectAlphabet_gives_subperm least greatest) ?_
  rintro ⟨nonterminals, terminals⟩ ⟨⟨namesLength, areNames⟩, terminalsLength, -⟩
  simp only at namesLength terminalsLength
  have someTerminals : terminals ≠ [] := by
    rintro rfl
    rw [List.length_nil] at terminalsLength
    omega
  -- Within the generator, the want of a fresh alternative is allowed besides.
  have fails : (Generator.grammar ⟨config, nonterminals, terminals⟩ :
      Draw σ (Option Grammar)).FailsOnly fun error =>
        (error = .nothingToChoose ∧ config.MayLackNames size) ∨
          ∃ lhs retries, error = .exhausted lhs retries := by
    refine (Expansion.fromRoot_failsOnly ?_ (fun name => ?_) nonterminals).andThen
      fun _ => .pure _
    · refine Generator.rule_failsOnly (fun draws => ?_) (.inr ⟨_, _, rfl⟩)
      refine Generator.alternative_failsOnly someTerminals fun _ single all => .inl ⟨rfl, ?_⟩
      refine ⟨single, draws, ?_⟩
      have counted : nonterminals.count config.rootName ≤
          (letters config.nonterminalAlphabet).count config.rootName :=
        areNames.count_le config.rootName
      have allCounted : nonterminals.count config.rootName = nonterminals.length :=
        List.count_eq_length.2 fun name member => (all name member).symm
      omega
    · refine Generator.rule_failsOnly (fun _ => ?_) (.inr ⟨_, _, rfl⟩)
      exact Generator.alternative_failsOnly someTerminals fun isRoot => absurd isRoot nofun
  refine fails.tryCatch fun error isAllowed => ?_
  rcases isAllowed with ⟨rfl, lacks⟩ | ⟨lhs, retries, rfl⟩
  · exact .throw ⟨rfl, lacks⟩
  · exact .pure _

end Lawful

section Prepared

/-- Some of the letters, in any order, can be selected. -/
theorem selectAlphabet_canEnd
    {nonterminals terminals : List String}
    (greatest : size ≤ config.maxSize)
    (least : 2 ≤ size)
    (namesLength : nonterminals.length + 1 = size)
    (areNames : nonterminals.Subperm (letters config.nonterminalAlphabet))
    (terminalsLength : terminals.length = size)
    (areTerminals : terminals.Subperm (letters config.terminalAlphabet)) :
    (config.selectAlphabet size : Draw Tape (List String × List String)).CanEnd
      (.ok (nonterminals, terminals)) := by
  have names : size.toNat - 1 = nonterminals.length := by omega
  have others : size.toNat = terminals.length := by omega
  rw [selectAlphabet_of_le least greatest, names, others]
  refine (Draw.sample_canEnd areNames).bind ?_
  exact (Draw.sample_canEnd areTerminals).bind (.pure _)

variable {generator : Generator}

/-- Where every selected name is that of the root, its rule may have nothing to choose from. -/
theorem rule_canEnd_lacking
    (single : generator.config.rootMinSymbols = 1)
    (draws : 1 ≤ generator.config.maxRetries)
    (lacks : ∀ name ∈ generator.nonterminals, name = generator.config.rootName) :
    (generator.rule generator.config.rootName true : Draw Tape Rule).CanEnd
      (.error .nothingToChoose) := by
  have alternative : (generator.alternative generator.config.rootName true :
      Draw Tape Alternative).CanEnd (.error .nothingToChoose) := by
    have one : generator.leastSymbols true = 1 := single
    have counted : (Draw.between (generator.leastSymbols true) generator.config.maxSymbols :
        Draw Tape Int).CanEnd (.ok 1) :=
      Draw.between_canEnd (Int.le_of_eq one) (one ▸ generator.leastSymbols_le true)
    refine counted.bind ?_
    simp only [Bool.true_and, decide_true, if_true]
    rw [Generator.no_names_iff.2 lacks]
    exact Draw.choose_canEnd_nil.bind_error
  have counted : (Draw.between generator.config.minAlternatives
      generator.config.maxAlternatives : Draw Tape Int).CanEnd
        (.ok generator.config.minAlternatives) :=
    Draw.between_canEnd (Int.le_refl _) generator.config.alternativesOrdered
  -- There is a first alternative to be drawn, and a first try for it.
  obtain ⟨count, isCount⟩ : ∃ count, generator.config.minAlternatives.toNat = count + 1 := by
    have oneAlternative := generator.config.oneAlternative
    exact Nat.exists_eq_succ_of_ne_zero (by omega)
  obtain ⟨retries, isRetries⟩ : ∃ retries, generator.config.maxRetries.toNat = retries + 1 :=
    Nat.exists_eq_succ_of_ne_zero (by omega)
  refine counted.bind (Draw.CanEnd.bind_error ?_)
  rw [isCount]
  refine Draw.CanEnd.bind_error ?_
  unfold Generator.freshAlternative
  rw [isRetries]
  exact alternative.bind_error

/-- Where names may be lacking, there are answers on which none is left to choose. -/
theorem generate_canEnd_lacking
    (least : 2 ≤ size)
    (greatest : size ≤ config.maxSize)
    (lacks : config.MayLackNames size) :
    (config.generate size : Draw Tape (Option Grammar)).CanEnd (.error .nothingToChoose) := by
  obtain ⟨-, enoughTerminals⟩ := enough_letters greatest
  have few : size.toNat - 1 ≤ (letters config.nonterminalAlphabet).count config.rootName := by
    have enough := lacks.enough
    omega
  -- The name of the root is all that is selected, as often as the size demands.
  have selects := selectAlphabet_canEnd greatest least
    (by rw [List.length_replicate]; omega)
    (List.replicate_sublist_iff.2 few).subperm
    (by rw [List.length_take_of_le enoughTerminals]; omega)
    (List.take_sublist size.toNat (letters config.terminalAlphabet)).subperm
  have fails : (Generator.grammar ⟨config, List.replicate (size.toNat - 1) config.rootName,
      (letters config.terminalAlphabet).take size.toNat⟩ : Draw Tape (Option Grammar)).CanEnd
        (.error .nothingToChoose) := by
    refine Draw.CanEnd.bind_error (Draw.CanEnd.bind_error ?_)
    exact rule_canEnd_lacking lacks.single lacks.draws fun name => List.eq_of_mem_replicate
  exact selects.bind (fails.tryCatch_error (.throw _))

end Prepared

/--
A size that the alphabets do not allow is refused with the source as it was. For every other
size a lawful source has an answer to every question but one: there may be no name for a root
alternative of one symbol. So generation always ends with a grammar or with none exactly if
names cannot be lacking.
-/
theorem generate_ends (config : Config) (size : Int) :
    (∀ (σ : Type) [RandomSource σ] (state : σ),
      (size < 2 →
        (config.generate size).run.run state = (.error (.sizeTooSmall size), state)) ∧
      (2 ≤ size → config.maxSize < size →
        (config.generate size).run.run state = (.error (.alphabetTooSmall size), state))) ∧
    (2 ≤ size → size ≤ config.maxSize →
      (∀ (σ : Type) [RandomSource σ] [LawfulRandomSource σ] (state : σ) error,
        ((config.generate size).run.run state).1 = .error error → error = .nothingToChoose) ∧
      ((∀ (σ : Type) [RandomSource σ] [LawfulRandomSource σ] (state : σ),
        ∃ result, ((config.generate size).run.run state).1 = .ok result) ↔
          ¬ config.MayLackNames size)) := by
  refine ⟨fun σ _ state => ⟨fun small => generate_of_tooSmall small state,
    fun least large => generate_of_tooLarge least large state⟩, fun least greatest => ⟨?_, ?_⟩⟩
  · intro σ _ _ state error fails
    exact (generate_failsOnly least greatest state error fails).1
  · constructor
    · intro ends lacks
      obtain ⟨tape, fails⟩ := (generate_canEnd_lacking least greatest lacks).exists_tape
      obtain ⟨result, gives⟩ := ends Tape tape
      rw [fails] at gives
      cases gives
    · intro enough σ _ _ state
      exact (generate_failsOnly least greatest).exists_ok (fun error lacks => enough lacks.2) state

/-- The standard configuration, and three sizes: two that are refused, and the greatest. -/
theorem generate_ends_standard :
    ¬ standard.MayLackNames 26 ∧
      (∀ state : InTurn, (standard.generate 1).run.run state = (.error (.sizeTooSmall 1), state)) ∧
      (∀ state : InTurn,
        (standard.generate 27).run.run state = (.error (.alphabetTooSmall 27), state)) ∧
      ∀ (σ : Type) [RandomSource σ] [LawfulRandomSource σ] (state : σ),
        ∃ result, ((standard.generate 26).run.run state).1 = .ok result := by
  have enough : ¬ standard.MayLackNames 26 := by decide +kernel
  refine ⟨enough, fun state => ?_, fun state => ?_, ?_⟩
  · exact ((generate_ends standard 1).1 InTurn state).1 (by decide)
  · exact ((generate_ends standard 27).1 InTurn state).2 (by decide) (by decide +kernel)
  · exact ((generate_ends standard 26).2 (by decide) (by decide +kernel)).2.2 enough

/-- A configuration whose only letter for names is the name of the root. -/
def namelike : Config :=
  { chanceless with rootName := "A" }

/-- It is accepted and allows the size two, but there is no name that its root could mention. -/
theorem generate_fails_namelike :
    (2 ≤ namelike.maxSize ∧ namelike.MayLackNames 2) ∧
      ((namelike.generate 2).run.run (InTurn.mk 0)).1 = .error .nothingToChoose ∧
      ¬ ∀ (config : Config) (size : Int), 2 ≤ size → size ≤ config.maxSize →
        ∀ (σ : Type) [RandomSource σ] [LawfulRandomSource σ] (state : σ),
          ∃ result, ((config.generate size).run.run state).1 = .ok result := by
  have fails : ((namelike.generate 2).run.run (InTurn.mk 0)).1 = .error .nothingToChoose := by
    decide +kernel
  refine ⟨by decide +kernel, fails, fun ends => ?_⟩
  obtain ⟨result, gives⟩ := ends namelike 2 (by decide) (by decide +kernel) InTurn ⟨0⟩
  rw [fails] at gives
  cases gives

end Config

end GrammarCorpus
