import GrammarCorpus.Proofs.Console
import GrammarCorpus.Proofs.Validation

namespace GrammarCorpus

/-!
# Samples that are drawn and shown

With the standard names a sample is drawn exactly if the alphabets allow its size, or if no
grammar is wanted: the size is looked at with the first draw. What has been drawn can be shown,
since no name holds a bracket, so that the root rules in the table have no tags.
-/

/-- A grammar whose root rule has no tags. -/
def Grammar.IsShowable (grammar : Grammar) : Prop :=
  ∀ rule, grammar.root? = some rule → '[' ∉ rule.text.toList

namespace Sample

variable {sample : Sample} {property : Grammar → Prop}

/-- What is shown of the root rule is the front of its text. -/
theorem notMem_rootText
    {grammar : Grammar}
    (showable : grammar.IsShowable) :
    '[' ∉ (rootText grammar).toList := by
  rw [rootText, String.toList_ofList]
  intro member
  have inside := List.mem_of_mem_take member
  cases found : grammar.root? with
  | none =>
      rw [found] at inside
      cases inside
  | some rule =>
      rw [found] at inside
      exact showable rule found inside

/-- A report on grammars without tags is complete. -/
theorem report_result
    {console : Console}
    (prints : console.PrintsUntagged)
    (showable : ∀ grammar ∈ sample.grammars, grammar.IsShowable)
    (size shown : Int)
    (plain : Bool) :
    (sample.report console size shown plain).result = .ok () := by
  have untagged : (sample.table size).IsUntagged :=
    table_isUntagged (fun grammar isDrawn => notMem_rootText (showable grammar isDrawn)) size
  unfold report
  cases sample.grammars.isEmpty with
  | true => rfl
  | false =>
      cases plain with
      | true => rfl
      | false =>
          obtain ⟨printed, isComplete⟩ :=
            Report.withTable_complete prints untagged (sample.firstInFull shown)
          exact congrArg (fun report => report.result.mapError SampleError.console) isComplete

section Draws

variable {σ : Type} [RandomSource σ] {config : Config} {size : Int} {wanted : Nat}

/-- The grammars of a sample have what every generated grammar has. -/
theorem extend_gives
    (generates : (config.generate size : Draw σ (Option Grammar)).Gives fun result =>
      ∀ grammar, result = some grammar → property grammar)
    (before : ∀ grammar ∈ sample.grammars, property grammar)
    (attempts : Nat) :
    (extend config size wanted attempts sample : Draw σ Sample).Gives fun result =>
      ∀ grammar ∈ result.grammars, property grammar := by
  induction attempts generalizing sample with
  | zero => exact .pure before
  | succ attempts inductionHypothesis =>
      rw [extend]
      split
      · exact .pure before
      · refine generates.bind fun drawn isGenerated => inductionHypothesis ?_
        intro grammar member
        rcases List.mem_append.1 member with isBefore | isNew
        · exact before grammar isBefore
        · exact isGenerated grammar (Option.mem_toList.1 isNew)

/-- A sample fails like the generator. -/
theorem extend_failsOnly
    {allowed : GenerationError → Prop}
    (generates : (config.generate size : Draw σ (Option Grammar)).FailsOnly allowed)
    (attempts : Nat) :
    (extend config size wanted attempts sample : Draw σ Sample).FailsOnly allowed := by
  induction attempts generalizing sample with
  | zero => exact .pure _
  | succ attempts inductionHypothesis =>
      rw [extend]
      split
      · exact .pure _
      · exact generates.andThen fun _ => inductionHypothesis

end Draws

end Sample

namespace Config

variable {config : Config} {size wanted : Int}

/-- A sample of none is drawn without asking. -/
theorem sample_of_none
    (none : wanted ≤ 0) :
    config.sample size wanted = .ok .empty := by
  have nothing : wanted.toNat = 0 := Int.toNat_of_nonpos none
  rw [sample, nothing]
  rfl

/-- The size is looked at as soon as a grammar is wanted. -/
theorem sample_of_not_allows
    (refused : ¬ config.Allows size)
    (some : 0 < wanted) :
    config.sample size wanted = .error (refusal size) := by
  obtain ⟨attempts, isAttempts⟩ :
      ∃ attempts, Sample.attemptsEach * wanted.toNat = attempts + 1 := by
    refine Nat.exists_eq_succ_of_ne_zero ?_
    rw [Sample.attemptsEach]
    omega
  have missing : ¬ wanted.toNat ≤ Sample.empty.grammars.length := by
    rw [Sample.empty, List.length_nil]
    omega
  rw [sample, Sample.collect, isAttempts, Sample.extend, if_neg missing]
  refine congrArg Prod.fst (Draw.run_bind_of_error ?_)
  rw [generate_of_not_allows refused]

variable (standard : config.IsNamedStandardly)

include standard

/-- No name of a generated grammar holds a bracket. -/
theorem generate_gives_showable
    {σ : Type}
    [RandomSource σ]
    [LawfulRandomSource σ]
    (size : Int) :
    (config.generate size : Draw σ (Option Grammar)).Gives fun result =>
      ∀ grammar, result = some grammar → grammar.IsShowable := by
  have noName : ∀ name ∈ Generator.standardNames, '[' ∉ name.toList := by
    decide +kernel
  have noLetter : ∀ name ∈ letters Config.standard.terminalAlphabet, '[' ∉ name.toList := by
    decide +kernel
  refine (config.generate_gives size).mono fun result generated grammar isResult => ?_
  obtain ⟨generator, root, others, rfl, selected, rfl, yields⟩ := generated grammar isResult
  intro rule isRoot
  obtain rfl : root = rule := Option.some.inj isRoot
  have member : root ∈ root :: others := List.mem_cons_self
  refine Rule.not_mem_text (by decide)
    (noName _ (yields.lhs_mem_standardNames selected standard member)) ?_
  intro alternative isAlternative symbol isSymbol
  rcases yields.name_mem_standardNames selected standard member isAlternative isSymbol with
    ⟨name, isName, rfl⟩ | ⟨name, isLetter, rfl⟩
  · exact noName name isName
  · exact noLetter name isLetter

/-- A sample of a size that can be asked for is drawn, and can be shown. -/
theorem exists_sample
    (allowed : config.Allows size)
    (wanted : Int) :
    ∃ sample, config.sample size wanted = .ok sample ∧
      ∀ grammar ∈ sample.grammars, grammar.IsShowable := by
  have fails : (Sample.collect config size wanted.toNat : Draw Mersenne Sample).FailsOnly
      fun _ => False :=
    Sample.extend_failsOnly (Validation.generate_failsOnly standard allowed) _
  have gives : (Sample.collect config size wanted.toNat : Draw Mersenne Sample).Gives
      fun result => ∀ grammar ∈ result.grammars, grammar.IsShowable :=
    Sample.extend_gives (generate_gives_showable standard size)
      (fun _ member => absurd member List.not_mem_nil) _
  obtain ⟨sample, drawn⟩ := fails.exists_ok (fun _ => id) (Mersenne.ofSeed (config.seed.getD 0))
  exact ⟨sample, drawn, gives _ _ drawn⟩

end Config

end GrammarCorpus
