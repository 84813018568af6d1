import GrammarCorpus.Proofs.Frontier
import GrammarCorpus.Proofs.Occurrence
import GrammarCorpus.Reachability

namespace GrammarCorpus

/-!
# What the search from the root meets

The search takes the latest waiting name and meets what its rule mentions. It comes to an
end with a name that has no rule, or with the names that it never met. In the second case
every name that it has met has a rule, and all that such a rule mentions has been met. The
first case is excluded if all names that the waiting names lead to have rules.
-/

namespace Frontier

/-- The effect of all names of a rule on the frontier of a search that goes into depth. -/
theorem foldl_push
    (names : List String)
    (frontier : Frontier) :
    names.foldl push frontier =
      { waiting := (fresh names frontier.unseen).reverse ++ frontier.waiting
        unseen := frontier.unseen.filter (· ∉ names) } := by
  induction names generalizing frontier with
  | nil => simp [fresh]
  | cons name names inductionHypothesis =>
      rw [List.foldl_cons, inductionHypothesis]
      by_cases member : name ∈ frontier.unseen
      · rw [fresh_cons_of_mem member]
        simp only [push, if_pos member, List.reverse_cons, List.append_assoc,
          List.singleton_append, mk.injEq, true_and]
        rw [forget, List.filter_filter]
        apply List.filter_congr
        intro other _
        simp [Bool.and_comm]
      · rw [fresh_cons_of_not_mem member]
        simp only [push, if_neg member, mk.injEq, true_and]
        apply List.filter_congr
        intro other unseen
        have different : other ≠ name := fun same => member (same ▸ unseen)
        simp [different]

/-- A name waits if it waited before, or is met for the first time. -/
theorem mem_waiting_foldl_push
    {names : List String}
    {frontier : Frontier}
    {name : String} :
    name ∈ (names.foldl push frontier).waiting ↔
      name ∈ names ∧ name ∈ frontier.unseen ∨ name ∈ frontier.waiting := by
  rw [foldl_push]
  simp only [List.mem_append, List.mem_reverse, mem_fresh]

/-- A name is unseen if it was unseen before, and is not met. -/
theorem mem_unseen_foldl_push
    {names : List String}
    {frontier : Frontier}
    {name : String} :
    name ∈ (names.foldl push frontier).unseen ↔ name ∈ frontier.unseen ∧ name ∉ names := by
  rw [foldl_push]
  simp only [List.mem_filter, decide_eq_true_eq]

end Frontier

namespace Grammar

variable {grammar : Grammar} {arrange : List String → List String}

/-- The names of a rule are met in an order of their own, but all of them are. -/
def Arranges (arrange : List String → List String) : Prop :=
  ∀ names, (arrange names).Perm names

/-- What is met of a rule is what it mentions. -/
theorem Arranges.mem_iff
    (arranges : Arranges arrange)
    {rule : Rule}
    {name : String} :
    name ∈ arrange rule.nonterminals.eraseDups ↔ name ∈ rule.nonterminals := by
  rw [(arranges _).mem_iff, List.mem_eraseDups]

/-- The search met a name after it began from a frontier. -/
def Met (frontier : Frontier) (unmet : List String) (name : String) : Prop :=
  name ∈ frontier.waiting ∨ name ∈ frontier.unseen ∧ name ∉ unmet

/-- A frontier after the names of a rule were met. -/
def meets
    (arrange : List String → List String)
    (rule : Rule)
    (waiting unseen : List String) : Frontier :=
  (arrange rule.nonterminals.eraseDups).foldl Frontier.push { waiting, unseen }

/-- A name waits after a rule if it waited before or is mentioned for the first time. -/
theorem mem_waiting_meets
    (arranges : Arranges arrange)
    {rule : Rule}
    {waiting unseen : List String}
    {name : String} :
    name ∈ (meets arrange rule waiting unseen).waiting ↔
      name ∈ rule.nonterminals ∧ name ∈ unseen ∨ name ∈ waiting := by
  rw [meets, Frontier.mem_waiting_foldl_push, arranges.mem_iff]

/-- A name is unseen after a rule if it was so before and is not mentioned. -/
theorem mem_unseen_meets
    (arranges : Arranges arrange)
    {rule : Rule}
    {waiting unseen : List String}
    {name : String} :
    name ∈ (meets arrange rule waiting unseen).unseen ↔
      name ∈ unseen ∧ name ∉ rule.nonterminals := by
  rw [meets, Frontier.mem_unseen_foldl_push, arranges.mem_iff]

/-- What is never met was unseen at the start. -/
theorem unmet_subset
    {frontier : Frontier}
    {unmet : List String}
    (found : grammar.unmet? arrange frontier = some unmet) :
    unmet ⊆ frontier.unseen := by
  induction frontier using unmet?.induct grammar arrange with
  | case1 unseen =>
      rw [unmet?] at found
      cases found
      exact List.Subset.refl _
  | case2 name rest unseen undefined =>
      rw [unmet?, undefined] at found
      cases found
  | case3 name rest unseen rule isRule names inductionHypothesis =>
      rw [unmet?, isRule] at found
      intro other isUnmet
      have later := inductionHypothesis found isUnmet
      rw [Frontier.foldl_push] at later
      exact (List.mem_filter.1 later).1

/-- Every name that is met has a rule, and all names that this rule mentions are met. -/
theorem closed_of_unmet
    (arranges : Arranges arrange)
    {frontier : Frontier}
    {unmet : List String}
    (found : grammar.unmet? arrange frontier = some unmet)
    {name : String}
    (met : Met frontier unmet name) :
    ∃ rule, grammar.rule? name = some rule ∧
      ∀ other ∈ rule.nonterminals, other ∉ unmet := by
  induction frontier using unmet?.induct grammar arrange with
  | case1 unseen =>
      rw [unmet?] at found
      cases found
      rcases met with waits | ⟨unseen, notUnmet⟩
      · cases waits
      · exact absurd unseen notUnmet
  | case2 first rest unseen undefined =>
      rw [unmet?, undefined] at found
      cases found
  | case3 first rest unseen rule isRule names inductionHypothesis =>
      rw [unmet?, isRule] at found
      have later := unmet_subset found
      rcases met with waits | ⟨isUnseen, notUnmet⟩
      · rcases List.mem_cons.1 waits with rfl | waitsLater
        · refine ⟨rule, isRule, ?_⟩
          intro other mentions isUnmet
          exact ((mem_unseen_meets arranges).1 (later isUnmet)).2 mentions
        · exact inductionHypothesis found
            (.inl ((mem_waiting_meets arranges).2 (.inr waitsLater)))
      · refine inductionHypothesis found ?_
        by_cases mentions : name ∈ rule.nonterminals
        · exact .inl ((mem_waiting_meets arranges).2 (.inl ⟨mentions, isUnseen⟩))
        · exact .inr ⟨(mem_unseen_meets arranges).2 ⟨isUnseen, mentions⟩, notUnmet⟩

/-- The search does not stop before its end if all names that it can meet have rules. -/
theorem exists_unmet
    (arranges : Arranges arrange)
    (frontier : Frontier)
    (property : String → Prop)
    (waiting : ∀ name ∈ frontier.waiting, property name)
    (passes : ∀ name, property name →
      ∃ rule, grammar.rule? name = some rule ∧ ∀ other ∈ rule.nonterminals, property other) :
    ∃ unmet, grammar.unmet? arrange frontier = some unmet := by
  induction frontier using unmet?.induct grammar arrange with
  | case1 unseen => exact ⟨unseen, by rw [unmet?]⟩
  | case2 name rest unseen undefined =>
      obtain ⟨rule, isRule, -⟩ := passes name (waiting name List.mem_cons_self)
      cases isRule.symm.trans undefined
  | case3 name rest unseen rule isRule names inductionHypothesis =>
      obtain ⟨same, isSame, mentioned⟩ := passes name (waiting name List.mem_cons_self)
      obtain rfl : same = rule := Option.some.inj (isSame.symm.trans isRule)
      rw [unmet?, isRule]
      refine inductionHypothesis ?_
      intro other waits
      rcases (mem_waiting_meets arranges).1 waits with ⟨mentions, -⟩ | waited
      · exact mentioned other mentions
      · exact waiting other (List.mem_cons_of_mem _ waited)

/-- Two lists have the same names if each name of one is a name of the other. -/
theorem sameNames_iff {left right : List String} :
    Reachability.sameNames left right = true ↔ left ⊆ right ∧ right ⊆ left := by
  simp only [Reachability.sameNames, Bool.and_eq_true, List.all_eq_true,
    List.contains_iff_mem]
  rfl

/-- The names that are left when some are taken away. -/
theorem mem_unreached {names reached : List String} {name : String} :
    name ∈ Reachability.unreached names reached ↔ name ∈ names ∧ name ∉ reached := by
  simp [Reachability.unreached]

/-- The rule of a name whose rule is the only one for it. -/
theorem rule?_of_nodup
    (distinct : grammar.names.Nodup)
    {rule : Rule}
    (member : rule ∈ grammar.rules) :
    grammar.rule? rule.lhs = some rule := by
  obtain ⟨rules⟩ := grammar
  unfold names at distinct
  unfold rule?
  simp only at distinct member ⊢
  induction rules with
  | nil => cases member
  | cons first others inductionHypothesis =>
      obtain ⟨new, distinctOthers⟩ := List.nodup_cons.1 (List.map_cons ▸ distinct)
      rcases List.mem_cons.1 member with rfl | isOther
      · rw [List.find?_cons_of_pos (by simp)]
      · rw [List.find?_cons_of_neg]
        · exact inductionHypothesis distinctOthers isOther
        · simp only [decide_eq_true_eq]
          intro same
          exact new (same ▸ List.mem_map_of_mem isOther)

/--
Rules for different names, one for every mentioned name; what holds of the root, and passes from
every rule on to the names that it mentions, holds of all of them.
-/
structure IsConnected (root : Rule) (others : List Rule) : Prop where
  distinct : ((root :: others).map Rule.lhs).Nodup
  defined : ∀ rule ∈ root :: others, ∀ name ∈ rule.nonterminals,
    ∃ other ∈ root :: others, other.lhs = name
  reached : ∀ property : String → Prop, property root.lhs →
    (∀ rule ∈ root :: others, property rule.lhs → ∀ name ∈ rule.nonterminals, property name) →
    ∀ rule ∈ root :: others, property rule.lhs

namespace IsConnected

variable {root : Rule} {others : List Rule}

/-- The search from the root meets everything that is mentioned. -/
theorem unmet_disjoint
    (connected : IsConnected root others)
    (arranges : Arranges arrange) :
    let grammar : Grammar := { rules := root :: others }
    ∃ unmet,
      grammar.unmet? arrange { waiting := [root.lhs], unseen := grammar.mentioned } =
          some unmet ∧
        ∀ name ∈ grammar.mentioned, name ∉ unmet := by
  intro grammar
  have ruleOf : ∀ rule ∈ root :: others, grammar.rule? rule.lhs = some rule :=
    fun rule member => rule?_of_nodup connected.distinct member
  let start : Frontier := { waiting := [root.lhs], unseen := grammar.mentioned }
  have ends : ∃ unmet, grammar.unmet? arrange start = some unmet := by
    refine exists_unmet arranges start
      (fun name => ∃ rule ∈ root :: others, rule.lhs = name) ?_ ?_
    · intro name waits
      exact ⟨root, List.mem_cons_self, (List.mem_singleton.1 waits).symm⟩
    · rintro _ ⟨rule, member, rfl⟩
      exact ⟨rule, ruleOf rule member, connected.defined rule member⟩
  obtain ⟨unmet, found⟩ := ends
  have closed : ∀ {name}, Met start unmet name →
      ∃ rule, grammar.rule? name = some rule ∧ ∀ other ∈ rule.nonterminals, other ∉ unmet :=
    closed_of_unmet arranges found
  refine ⟨unmet, found, ?_⟩
  -- A name passes on to the names of its rule that what they mention is met.
  have allMet := connected.reached
    (fun name => ∀ rule, grammar.rule? name = some rule →
      ∀ other ∈ rule.nonterminals, other ∉ unmet)
    (by
      intro rule isRule
      obtain ⟨same, isSame, met⟩ := closed (.inl List.mem_cons_self)
      cases isSame.symm.trans isRule
      exact met)
    (by
      intro rule member metOfRule name mentions other isOther
      have isMentioned : name ∈ grammar.mentioned := mem_mentioned.2 ⟨rule, member, mentions⟩
      obtain ⟨same, isSame, met⟩ :=
        closed (.inr ⟨isMentioned, metOfRule rule (ruleOf rule member) name mentions⟩)
      cases isSame.symm.trans isOther
      exact met)
  intro name isMentioned
  obtain ⟨rule, member, mentions⟩ := mem_mentioned.1 isMentioned
  exact allMet rule member rule (ruleOf rule member) name mentions

/-- Every name behind the root is mentioned. -/
theorem mentioned_of_mem
    (connected : IsConnected root others)
    {name : String}
    (isName : name ∈ others.map Rule.lhs) :
    name ∈ mentioned { rules := root :: others } := by
  obtain ⟨rule, isOther, rfl⟩ := List.mem_map.1 isName
  have rootOrMentioned := connected.reached
    (fun name => name = root.lhs ∨ name ∈ mentioned { rules := root :: others }) (.inl rfl)
    (fun rule member _ name mentions => .inr (mem_mentioned.2 ⟨rule, member, mentions⟩))
    rule (List.mem_cons_of_mem _ isOther)
  refine rootOrMentioned.resolve_left fun same => ?_
  exact (List.nodup_cons.1 connected.distinct).1 (same ▸ isName)

/-- The search agrees with the rules unless one of them mentions the root. -/
theorem reachesItsRules
    (connected : IsConnected root others)
    (arranges : Arranges arrange) :
    ∃ verdict,
      reachesItsRules? { rules := root :: others } arrange = some verdict ∧
        (verdict = true ↔ ∀ rule ∈ root :: others, root.lhs ∉ rule.nonterminals) := by
  obtain ⟨unmet, found, met⟩ := connected.unmet_disjoint arranges
  refine ⟨_, rfl, ?_⟩
  simp only [found]
  rw [sameNames_iff]
  constructor
  · rintro ⟨subset, -⟩ rule member mentions
    have isMentioned : root.lhs ∈ mentioned { rules := root :: others } :=
      mem_mentioned.2 ⟨rule, member, mentions⟩
    have behindRoot := subset (mem_unreached.2 ⟨isMentioned, met _ isMentioned⟩)
    exact (List.nodup_cons.1 connected.distinct).1 behindRoot
  · intro notRoot
    constructor
    · intro name isReached
      obtain ⟨rule, member, mentions⟩ := mem_mentioned.1 (mem_unreached.1 isReached).1
      obtain ⟨other, isRule, rfl⟩ := connected.defined rule member name mentions
      rcases List.mem_cons.1 isRule with rfl | isOther
      · exact absurd mentions (notRoot rule member)
      · exact List.mem_map_of_mem isOther
    · intro name isName
      have isMentioned := connected.mentioned_of_mem isName
      exact mem_unreached.2 ⟨isMentioned, met name isMentioned⟩

end IsConnected

end Grammar

end GrammarCorpus
