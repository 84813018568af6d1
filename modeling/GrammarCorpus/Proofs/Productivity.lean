import GrammarCorpus.Productivity
import GrammarCorpus.Proofs.Occurrence

namespace GrammarCorpus

/-!
# What productive names have in common

A sweep adds the name of a rule only where one of its alternatives mentions known names
alone. So whatever passes from the names of an alternative on to the name of its rule
holds of all productive names.
-/

namespace Productivity

/-- A rule is justified by an alternative that mentions known names only. -/
theorem justifies_iff {known : List String} {rule : Rule} :
    justifies known rule = true ↔
      ∃ alternative ∈ rule.alternatives,
        ∀ name ∈ alternative.nonterminals, name ∈ known := by
  unfold justifies
  rw [List.any_eq_true]
  refine exists_congr fun alternative => and_congr_right fun _ => ?_
  rw [List.all_eq_true]
  constructor
  · intro supported name mentions
    have supports := supported _ (Alternative.mem_nonterminals.1 mentions)
    exact List.contains_iff_mem.1 supports
  · intro mentioned symbol member
    cases symbol with
    | terminal _ => rfl
    | nonterminal name =>
        exact List.contains_iff_mem.2
          (mentioned name (Alternative.mem_nonterminals.2 member))

/-- A sweep leaves no rules open but those it was given. -/
theorem sweep_open_subset (known : List String) (rules : List Rule) :
    (sweep known rules).1 ⊆ rules := by
  induction rules generalizing known with
  | nil => exact List.Subset.refl _
  | cons rule rules inductionHypothesis =>
      unfold sweep
      split
      · exact List.subset_cons_of_subset _ (inductionHypothesis known)
      · split
        · exact List.subset_cons_of_subset _ (inductionHypothesis _)
        · exact List.cons_subset_cons _ (inductionHypothesis known)

section Induction

variable {property : String → Prop} {rules : List Rule}

/-- A property that each alternative passes from its names on to the name of its rule. -/
def Passes (property : String → Prop) (rules : List Rule) : Prop :=
  ∀ rule ∈ rules, ∀ alternative ∈ rule.alternatives,
    (∀ name ∈ alternative.nonterminals, property name) → property rule.lhs

/-- Fewer rules pass no more on. -/
theorem Passes.of_subset
    {fewer : List Rule}
    (passes : Passes property rules)
    (subset : fewer ⊆ rules) :
    Passes property fewer :=
  fun rule member => passes rule (subset member)

/-- All names known after a sweep have the property if those known before have it. -/
theorem sweep_known_induction
    {known : List String}
    (passes : Passes property rules)
    (holds : ∀ name ∈ known, property name) :
    ∀ name ∈ (sweep known rules).2, property name := by
  induction rules generalizing known with
  | nil => exact holds
  | cons rule rules inductionHypothesis =>
      have passesLater := passes.of_subset (List.subset_cons_self rule rules)
      unfold sweep
      split
      · exact inductionHypothesis passesLater holds
      · split
        · rename_i justified
          obtain ⟨alternative, member, mentioned⟩ := justifies_iff.1 justified
          have holdsLhs : property rule.lhs :=
            passes rule (List.mem_cons_self ..) alternative member fun name mentions =>
              holds name (mentioned name mentions)
          exact inductionHypothesis passesLater (List.forall_mem_cons.2 ⟨holdsLhs, holds⟩)
        · exact inductionHypothesis passesLater holds

/-- All names that the sweeps find have the property if those known before have it. -/
theorem settle_induction
    {known : List String}
    {before : Nat}
    (passes : Passes property rules)
    (holds : ∀ name ∈ known, property name) :
    ∀ name ∈ (settle rules known before).names, property name := by
  induction rules, known, before using settle.induct with
  | case1 rules known before grown inductionHypothesis =>
      rw [settle, dif_pos grown]
      exact inductionHypothesis
        (passes.of_subset (sweep_open_subset known rules))
        (sweep_known_induction passes holds)
  | case2 rules known before settled =>
      rw [settle, dif_neg settled]
      exact sweep_known_induction passes holds

end Induction

end Productivity

/-- A property that the rules behind the root pass on holds of all productive names. -/
theorem Grammar.productive_induction
    {grammar : Grammar}
    (property : String → Prop)
    (passes : Productivity.Passes property (grammar.rules.drop 1)) :
    ∀ name ∈ grammar.productive, property name :=
  Productivity.settle_induction passes (fun _ member => nomatch member)

end GrammarCorpus
