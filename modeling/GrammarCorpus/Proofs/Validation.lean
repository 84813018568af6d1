import GrammarCorpus.Proofs.Mersenne
import GrammarCorpus.Proofs.Rendering
import GrammarCorpus.Proofs.Search
import GrammarCorpus.Proofs.Totality
import GrammarCorpus.Validation

namespace GrammarCorpus

/-!
# Generated grammars pass validation

The checks look at finished grammars alone, but each of them asks for something that the
generator has seen to: the names that are reached are those of the rules, every rule behind the
root is productive, the alternatives of a rule differ and none is its own name, there are as many
rules as were asked for, and with the standard names all three renderings can be counted. So
nothing that is drawn fails a check, and a validation fails only where nothing has been drawn.
-/

namespace Grammar

variable {grammar : Grammar} {root : Rule} {others : List Rule}

/-- Alternatives that are written differently are no duplicates. -/
theorem hasDistinctAlternatives_of_nodup
    (distinct : ∀ rule ∈ grammar.rules, (rule.alternatives.map Alternative.text).Nodup) :
    grammar.hasDistinctAlternatives = true := by
  refine List.all_eq_true.2 fun rule member => decide_eq_true ?_
  have same := (List.perm_ext_iff_of_nodup (nodup_eraseDups _) (distinct rule member)).2
    fun text => List.mem_eraseDups
  rw [same.length_eq, List.length_map]

/-- Where no rule mentions itself none is an alias of itself. -/
theorem hasNoSelfAlias_of_notItself
    (notItself : ∀ rule ∈ grammar.rules, rule.lhs ∉ rule.nonterminals) :
    grammar.hasNoSelfAlias = true := by
  refine List.all_eq_true.2 fun rule isRule => ?_
  refine List.all_eq_true.2 fun alternative member => decide_eq_true fun isAlias => ?_
  refine notItself rule isRule (Rule.mem_nonterminals.2 ⟨alternative, member, ?_⟩)
  exact isAlias ▸ List.mem_singleton_self _

/-- A readable grammar keeps its shape in the three renderings. -/
theorem keepsShape?_of_isReadable
    (readable : IsReadable { rules := root :: others }) :
    keepsShape? { rules := root :: others } = some (.ok true) := by
  have plain := Recount.Dialect.plain.recount_framed readable
  have withActions := Recount.Dialect.withActions.recount_framed readable
  rw [Recount.Dialect.text_plain] at plain
  rw [Recount.Dialect.text_withActions] at withActions
  have directive : Shape.recount ("%define lr.type canonical-lr\n" ++
      framed root (text { rules := root :: others })) = .ok (shape { rules := root :: others }) :=
    (Shape.recount_append (by decide) (by decide)).trans plain
  change some (allHaveShape _ [_, _, _]) = _
  simp only [allHaveShape, plain, directive, withActions, if_true]

end Grammar

namespace Validation

/--
A grammar that was drawn passes if every check holds of it, in whatever order the names of a
rule are met.
-/
structure Drawn.Passes (drawn : Drawn) : Prop where
  checks : ∀ check ∈ Validation.checks, check.holds drawn = .ok true
  reaches : ∀ arrange, Grammar.Arranges arrange →
    drawn.grammar.reachesItsRules? arrange = some true

section Standard

variable {generator : Generator} {root : Rule} {others : List Rule} {size : Int}

/-- The rules that a generator yields are connected. -/
theorem isConnected_of_yields
    (yields : generator.Yields root others)
    (outside : generator.config.rootName ∉ generator.nonterminals) :
    Grammar.IsConnected root others where
  distinct := yields.expanded.nodup_names_cons
  defined rule member name mentions := by
    obtain ⟨other, isOther, same⟩ := List.mem_map.1 (yields.defined outside member mentions)
    exact ⟨other, List.mem_cons_of_mem _ isOther, same⟩
  reached := yields.expanded.induction_from_root

/-- What a generator yields with the standard names passes. -/
theorem passes_of_yields
    (yields : generator.Yields root others)
    (selected : generator.Selected size)
    (standard : generator.config.IsNamedStandardly) :
    Drawn.Passes { size, grammar := { rules := root :: others } } := by
  have outside := selected.rootName_not_mem standard
  have shape := yields.hasStandardShape selected standard
  have reaches : ∀ arrange, Grammar.Arranges arrange →
      Grammar.reachesItsRules? { rules := root :: others } arrange = some true := by
    intro arrange arranges
    obtain ⟨verdict, isVerdict, agrees⟩ :=
      (isConnected_of_yields yields outside).reachesItsRules arranges
    have holds : verdict = true := by
      refine agrees.2 fun rule member mentions => ?_
      obtain ⟨_, ruleShape⟩ := shape.ruleHasShape member
      exact ruleShape.notRoot (yields.rootFits.lhs_eq ▸ mentions)
    rw [isVerdict, holds]
  have distinct : Grammar.hasDistinctAlternatives { rules := root :: others } = true := by
    refine Grammar.hasDistinctAlternatives_of_nodup fun rule member => ?_
    obtain ⟨_, ruleShape⟩ := shape.ruleHasShape member
    exact ruleShape.distinct
  have noAlias : Grammar.hasNoSelfAlias { rules := root :: others } = true := by
    refine Grammar.hasNoSelfAlias_of_notItself fun rule member => ?_
    obtain ⟨_, ruleShape⟩ := shape.ruleHasShape member
    exact ruleShape.notItself
  have counted : ((root :: others).length : Int) = size := shape.rules_length
  have kept := Grammar.keepsShape?_of_isReadable (yields.isReadable selected standard)
  refine ⟨?_, reaches⟩
  simp only [checks, List.forall_mem_cons]
  refine ⟨?_, ?_, ?_, ?_, ?_, ?_, nofun⟩
  · rw [reaches id fun _ => .refl _]
    rfl
  · exact congrArg Except.ok yields.isProductive
  · exact congrArg Except.ok distinct
  · exact congrArg Except.ok noAlias
  · exact congrArg Except.ok (decide_eq_true counted)
  · rw [kept]
    rfl

end Standard

section Report

variable {drawn : List Drawn}

/-- A check that holds of all grammars counts all of them. -/
theorem countPassing_of_forall
    {check : Check}
    (holds : ∀ item ∈ drawn, check.holds item = .ok true) :
    check.countPassing drawn = .ok drawn.length := by
  induction drawn with
  | nil => rfl
  | cons item others inductionHypothesis =>
      obtain ⟨first, rest⟩ := List.forall_mem_cons.1 holds
      rw [Check.countPassing, first, inductionHypothesis rest]
      rfl

/-- The groups of checks that all of so many grammars pass. -/
def passingGroups (total number : Nat) (checks : List Check) : String :=
  String.join ((checks.zipIdx number).map fun (check, number) =>
    group number check.name total total)

/-- Where all checks hold of all grammars, every group says so, and none is counted as failed. -/
theorem groups_of_forall
    {checks : List Check}
    (holds : ∀ check ∈ checks, ∀ item ∈ drawn, check.holds item = .ok true)
    (number : Nat)
    (text : String)
    (failed : Nat) :
    groups drawn number checks text failed =
      (text ++ passingGroups drawn.length number checks, .ok failed) := by
  induction checks generalizing number text with
  | nil => simp [groups, passingGroups]
  | cons check others inductionHypothesis =>
      obtain ⟨first, rest⟩ := List.forall_mem_cons.1 holds
      rw [groups, countPassing_of_forall first]
      simp only [if_true]
      rw [inductionHypothesis rest, passingGroups, passingGroups]
      simp [String.append_assoc]

/-- On grammars that all pass, the report says so of every check, unless there are none. -/
theorem report_of_passes (attempts : Nat) (passes : ∀ item ∈ drawn, item.Passes) :
    report attempts drawn = {
      text := heading ++ s!"\n[0] Generated {drawn.length}/{attempts} grammars\n" ++
        if drawn = [] then "  ✗ FAIL: nothing to validate\n"
        else passingGroups drawn.length 1 checks ++ summary 0
      result := .ok (drawn ≠ []) } := by
  unfold report
  by_cases none : drawn = []
  · subst none
    rfl
  · have grouped := groups_of_forall
      (fun check isCheck item member => (passes item member).checks check isCheck) 1
      (heading ++ s!"\n[0] Generated {drawn.length}/{attempts} grammars\n") 0
    simp only [List.isEmpty_iff, none, if_false, grouped]
    simp [none, String.append_assoc]

end Report

section Draws

variable {config : Config} {minSize maxSize : Int} {drawn : List Drawn}
variable (standard : config.IsNamedStandardly)

include standard

/-- The standard alphabets have names for 26 rules. -/
theorem maxSize_eq : config.maxSize = 26 := by
  unfold Settings.maxSize
  rw [standard.nonterminals, standard.terminals]
  decide +kernel

/-- With the standard names, the sizes that can be asked for are the standard ones. -/
theorem allows_iff {size : Int} : config.Allows size ↔ Config.standard.Allows size := by
  have named : Config.standard.IsNamedStandardly := ⟨rfl, rfl, rfl⟩
  rw [Config.Allows, Config.Allows, maxSize_eq standard, maxSize_eq named]

/-- The name of the root is no letter, so there are always names to choose from. -/
theorem not_mayLackNames {size : Int} (least : 2 ≤ size) : ¬ config.MayLackNames size := by
  have outside : Config.standard.rootName ∉
      Config.letters Config.standard.nonterminalAlphabet := by decide +kernel
  rw [← standard.nonterminals, ← standard.root] at outside
  exact Config.not_mayLackNames_of_notMem outside least

variable {σ : Type} [RandomSource σ] [LawfulRandomSource σ]

/-- Every grammar that is drawn passes, and has a size between the bounds. -/
theorem draw_gives (ordered : minSize ≤ maxSize) (count : Nat) :
    (draw config minSize maxSize count drawn : Draw σ (List Drawn)).Gives fun all =>
      ∃ more, all = drawn ++ more ∧ more.length ≤ count ∧
        ∀ item ∈ more, (minSize ≤ item.size ∧ item.size ≤ maxSize) ∧ item.Passes := by
  induction count generalizing drawn with
  | zero => exact .pure ⟨[], (List.append_nil _).symm, Nat.le_refl _, nofun⟩
  | succ count inductionHypothesis =>
      refine (Draw.between_gives ordered).bind fun size bounds => ?_
      refine (config.generate_gives size).bind fun found generated => ?_
      refine inductionHypothesis.mono ?_
      rintro _ ⟨more, rfl, few, all⟩
      refine ⟨(found.toList.map fun grammar => ⟨size, grammar⟩) ++ more,
        List.append_assoc .., ?_, ?_⟩
      · have atMostOne : found.toList.length ≤ 1 := by cases found <;> simp
        simp only [List.length_append, List.length_map]
        omega
      · intro item member
        rcases List.mem_append.1 member with isNew | isLater
        · obtain ⟨grammar, isFound, rfl⟩ := List.mem_map.1 isNew
          obtain ⟨generator, root, others, rfl, selected, rfl, yields⟩ :=
            generated grammar (Option.mem_toList.1 isFound)
          exact ⟨bounds, passes_of_yields yields selected standard⟩
        · exact all item isLater

/-- No grammar fails to be drawn in a size that can be asked for. -/
theorem generate_failsOnly {size : Int} (allowed : config.Allows size) :
    (config.generate size : Draw σ (Option Grammar)).FailsOnly fun _ => False := by
  intro state error fails
  exact not_mayLackNames standard allowed.1
    (Config.generate_failsOnly allowed.1 allowed.2 state error fails).2

/-- Where not all sizes can be asked for, a draw fails only with the refusal of one that cannot. -/
theorem draw_failsOnly_refusal
    (ordered : minSize ≤ maxSize)
    (count : Nat) :
    (draw config minSize maxSize count drawn : Draw σ (List Drawn)).FailsOnly fun error =>
      ∃ size, minSize ≤ size ∧ size ≤ maxSize ∧ ¬ config.Allows size ∧
        error = Config.refusal size := by
  induction count generalizing drawn with
  | zero => exact .pure _
  | succ count inductionHypothesis =>
      refine (Draw.between_failsOnly ordered).bind (Draw.between_gives ordered) ?_
      rintro size ⟨above, below⟩
      refine Draw.FailsOnly.andThen ?_ fun _ => inductionHypothesis
      intro state error fails
      by_cases allowed : config.Allows size
      · exact absurd fails fun fails => generate_failsOnly standard allowed state error fails
      · rw [Config.generate_of_not_allows allowed] at fails
        cases fails
        exact ⟨size, above, below, allowed, rfl⟩

end Draws

end Validation

namespace Config

/-- A validation reports on what its draws have yielded. -/
theorem validation_of_draw
    {config : Config}
    {attempts minSize maxSize : Int}
    {drawn : List Validation.Drawn}
    (given : ((Validation.draw config minSize maxSize attempts.toNat []).run.run
      (Mersenne.ofSeed (config.seed.getD defaultSeed))).1 = .ok drawn) :
    config.validation attempts minSize maxSize = Validation.report attempts.toNat drawn := by
  rw [StateT.run] at given
  unfold validation
  simp only [given]

end Config

end GrammarCorpus
