import GrammarCorpus.Proofs.BreadthFirst
import GrammarCorpus.Proofs.Generation
import GrammarCorpus.Proofs.Tape

namespace GrammarCorpus

/-!
# What can be drawn

What drawn rules satisfy is all that they have to satisfy: whatever fits can be drawn. The
alternatives of a rule that fits are fresh one after another, so none of them has to be drawn
again, and a generator that allows one draw for each is enough. What an expansion can yield is
then yielded, name by name, and accepted at the end.
-/

namespace Generator

variable {generator : Generator} {lhs : String} {isRoot sole : Bool}

/-- Any candidates can be drawn, in any order. -/
theorem symbols_canEnd
    {candidates drawn : List Symbol}
    (areCandidates : ∀ symbol ∈ drawn, symbol ∈ candidates) :
    (symbols candidates drawn.length : Draw Tape (List Symbol)).CanEnd (.ok drawn) := by
  induction drawn with
  | nil => exact .pure _
  | cons first others inductionHypothesis =>
      obtain ⟨isCandidate, othersAre⟩ := List.forall_mem_cons.1 areCandidates
      exact (Draw.choose_canEnd isCandidate).bind
        ((inductionHypothesis othersAre).bind (.pure _))

/-- Any alternative that fits can be drawn. -/
theorem alternative_canEnd
    {alternative : Alternative}
    (fits : generator.AlternativeFits lhs isRoot alternative) :
    (generator.alternative lhs isRoot : Draw Tape Alternative).CanEnd (.ok alternative) := by
  refine (Draw.between_canEnd fits.least fits.greatest).bind ?_
  by_cases isShort : (isRoot && (alternative.length : Int) = 1) = true
  · simp only [isShort, if_true]
    obtain ⟨root, isOne⟩ := Bool.and_eq_true_iff.1 isShort
    obtain ⟨name, single⟩ := fits.expands root (Int.ofNat_inj.1 (of_decide_eq_true isOne))
    have isCandidate := fits.candidates (.nonterminal name) (single ▸ List.mem_singleton_self _)
    obtain ⟨symbols⟩ := alternative
    cases single
    exact (Draw.choose_canEnd (List.mem_filter.2 ⟨isCandidate, rfl⟩)).bind (.pure _)
  · simp only [isShort]
    exact (symbols_canEnd fits.candidates).bind (.pure _)

/-- Any fresh alternative that fits can be drawn at once. -/
theorem freshAlternative_canEnd
    {taken : List Alternative}
    {alternative : Alternative}
    (draws : 1 ≤ generator.config.maxRetries)
    (fits : generator.AlternativeFits lhs isRoot alternative)
    (fresh : isFresh sole taken alternative = true) :
    (generator.freshAlternative lhs isRoot sole taken : Draw Tape Alternative).CanEnd
      (.ok alternative) := by
  obtain ⟨retries, isRetries⟩ : ∃ retries, generator.config.maxRetries.toNat = retries + 1 :=
    Nat.exists_eq_succ_of_ne_zero (by omega)
  unfold freshAlternative
  rw [isRetries]
  refine (alternative_canEnd fits).bind ?_
  simp only [fresh, if_true]
  exact .pure _

/-- Among alternatives that fit together each is fresh behind those in front of it. -/
theorem AlternativesFit.isFresh
    {taken later : List Alternative}
    {next : Alternative}
    (fit : generator.AlternativesFit lhs isRoot sole (taken ++ next :: later)) :
    isFresh sole taken next = true := by
  have among : next ∈ taken ++ next :: later :=
    List.mem_append_right _ List.mem_cons_self
  have distinct := fit.distinct
  rw [List.map_append, List.map_cons, List.nodup_middle, List.nodup_cons] at distinct
  refine Bool.and_eq_true_iff.2 ⟨?_, ?_⟩
  · rw [Bool.not_eq_true', Bool.and_eq_false_imp]
    intro isSole
    simpa [Alternative.isEmpty] using fit.soleNotEmpty isSole next among
  · rw [Bool.not_eq_true', ← Bool.not_eq_true, List.contains_iff_mem]
    exact fun isTaken => distinct.1 (List.mem_append_left _ isTaken)

/-- Alternatives that fit together can be drawn one after another. -/
theorem alternatives_canEnd
    {taken later : List Alternative}
    (draws : 1 ≤ generator.config.maxRetries)
    (fit : generator.AlternativesFit lhs isRoot sole (taken ++ later)) :
    (generator.alternatives lhs isRoot sole taken later.length :
      Draw Tape (List Alternative)).CanEnd (.ok (taken ++ later)) := by
  induction later generalizing taken with
  | nil =>
      rw [List.append_nil]
      exact .pure _
  | cons next later inductionHypothesis =>
      have fits := fit.each next (List.mem_append_right _ List.mem_cons_self)
      refine (freshAlternative_canEnd draws fits fit.isFresh).bind ?_
      rw [List.append_cons taken next later] at fit ⊢
      exact inductionHypothesis fit

/-- Any rule that fits can be drawn. -/
theorem rule_canEnd
    {rule : Rule}
    (draws : 1 ≤ generator.config.maxRetries)
    (fits : generator.RuleFits lhs isRoot rule) :
    (generator.rule lhs isRoot : Draw Tape Rule).CanEnd (.ok rule) := by
  obtain rfl := fits.lhs_eq
  have isSole : decide ((rule.alternatives.length : Int) = 1) =
      decide (rule.alternatives.length = 1) :=
    decide_eq_decide.2 Int.ofNat_inj
  have drawn : (generator.alternatives rule.lhs isRoot ((rule.alternatives.length : Int) = 1) []
      (rule.alternatives.length : Int).toNat : Draw Tape (List Alternative)).CanEnd
        (.ok rule.alternatives) := by
    rw [isSole]
    exact alternatives_canEnd draws fits.alternativesFit
  exact (Draw.between_canEnd fits.least fits.greatest).bind (drawn.bind (.pure _))

end Generator

namespace Expansion

variable {drawn drawnRoot : Rule → Prop} {ruleFor : String → Draw Tape Rule}

/-- Rules that can be drawn for their names are yielded by an expansion. -/
theorem Expanded.canEnd
    {frontier : Frontier}
    {yielded : List Rule}
    (expanded : Expanded drawn frontier yielded)
    (each : ∀ rule, drawn rule → (ruleFor rule.lhs).CanEnd (.ok rule)) :
    Draw.CanEnd (rules ruleFor frontier) (.ok yielded) := by
  induction expanded with
  | done =>
      rw [rules]
      exact .pure _
  | next isDrawn _ inductionHypothesis =>
      rw [rules]
      exact (each _ isDrawn).bind (inductionHypothesis.bind (.pure _))

end Expansion

/-- Whatever a generator yields can be drawn, and is accepted. -/
theorem Generator.Yields.canEnd
    {generator : Generator}
    {root : Rule}
    {others : List Rule}
    (yields : generator.Yields root others)
    (draws : 1 ≤ generator.config.maxRetries) :
    (generator.grammar : Draw Tape (Option Grammar)).CanEnd
      (.ok (some { rules := root :: others })) := by
  have expands : (Expansion.fromRoot (generator.rule generator.config.rootName true)
      (fun name => generator.rule name false) generator.nonterminals :
        Draw Tape (List Rule)).CanEnd (.ok (root :: others)) :=
    (rule_canEnd draws yields.rootFits).bind
      ((yields.expanded.canEnd fun _ fits => rule_canEnd draws fits).bind (.pure _))
  have acceptable : Expansion.Acceptable generator.nonterminals (root :: others) :=
    ⟨yields.reached, Grammar.isProductive_iff_rules.1 yields.isProductive⟩
  refine expands.bind ?_
  rw [(Expansion.accept?_of_acceptable _ _).1 acceptable]
  exact .pure _

end GrammarCorpus
