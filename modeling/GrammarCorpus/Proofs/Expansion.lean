import GrammarCorpus.Proofs.Draw
import GrammarCorpus.Proofs.Frontier
import GrammarCorpus.Proofs.Occurrence
import Mathlib.Tactic.Tauto

namespace GrammarCorpus

/-!
# What an expansion yields

An expansion takes the waiting names one by one, and the rule of each puts the names
that it mentions for the first time behind the others. `Expanded` is the record of
such a run: the frontier it starts from and the rules it yields. How the rules come
about is left open; all that is asked is that each belongs to its name.

From a clean frontier every name is expanded once at most. Every waiting name has a
rule in the end, and so has every unseen name that some rule mentions; and whatever
passes from rules on to the names they mention holds of all names with rules.
-/

namespace Expansion

/-- The rules that an expansion can yield from a frontier. -/
inductive Expanded (drawn : Rule → Prop) : Frontier → List Rule → Prop
  /-- No name waits. -/
  | done {unseen : List String} :
      Expanded drawn { waiting := [], unseen } []
  /-- The first waiting name gets its rule. -/
  | next {rule : Rule} {waiting unseen : List String} {later : List Rule} :
      drawn rule →
      Expanded drawn
        (rule.nonterminals.foldl Frontier.enqueue { waiting, unseen }) later →
      Expanded drawn { waiting := rule.lhs :: waiting, unseen } (rule :: later)

/-- An expansion by draws yields rules that are drawn one after another. -/
theorem rules_gives
    {σ : Type}
    {ruleFor : String → Draw σ Rule}
    {drawn : Rule → Prop}
    (gives : ∀ name, (ruleFor name).Gives fun rule => rule.lhs = name ∧ drawn rule)
    (frontier : Frontier) :
    Draw.Gives (rules ruleFor frontier) (Expanded drawn frontier) := by
  induction frontier using rules.induct with
  | case1 unseen =>
      rw [rules]
      exact .pure .done
  | case2 name waiting unseen inductionHypothesis =>
      rw [rules]
      refine (gives name).bind ?_
      rintro rule ⟨rfl, isDrawn⟩
      refine (inductionHypothesis rule).bind ?_
      intro later expanded
      exact .pure (.next isDrawn expanded)

namespace Expanded

variable {drawn : Rule → Prop} {frontier : Frontier} {rules : List Rule}

/-- Every rule has been drawn. -/
theorem drawn_of_mem
    (expanded : Expanded drawn frontier rules)
    {rule : Rule}
    (member : rule ∈ rules) :
    drawn rule := by
  induction expanded with
  | done => cases member
  | next isDrawn _ inductionHypothesis =>
      rcases List.mem_cons.1 member with rfl | later
      · exact isDrawn
      · exact inductionHypothesis later

/-- Every waiting name gets a rule. -/
theorem mem_names_of_waiting
    (expanded : Expanded drawn frontier rules)
    {name : String}
    (waits : name ∈ frontier.waiting) :
    name ∈ rules.map Rule.lhs := by
  induction expanded with
  | done => cases waits
  | @next rule waiting unseen later _ _ inductionHypothesis =>
      rw [List.map_cons, List.mem_cons]
      rcases List.mem_cons.1 waits with isFirst | isLater
      · exact .inl isFirst
      · exact .inr (inductionHypothesis (Frontier.waits_of_waits _ isLater))

/-- Every unseen name that a rule mentions gets a rule. -/
theorem mem_names_of_mentioned
    (expanded : Expanded drawn frontier rules)
    {rule : Rule}
    (member : rule ∈ rules)
    {name : String}
    (mentions : name ∈ rule.nonterminals)
    (unseen : name ∈ frontier.unseen) :
    name ∈ rules.map Rule.lhs := by
  induction expanded with
  | done => cases member
  | @next first waiting others later _ expanded inductionHypothesis =>
      refine List.mem_cons_of_mem _ ?_
      by_cases met : name ∈ first.nonterminals
      · exact expanded.mem_names_of_waiting (Frontier.waits_of_met met unseen)
      · rcases List.mem_cons.1 member with rfl | isLater
        · exact absurd mentions met
        · exact inductionHypothesis isLater
            (Frontier.mem_unseen_foldl_enqueue.2 ⟨unseen, met⟩)

/--
What holds of all waiting names, and passes from every rule on to the unseen names
that it mentions, holds of all names with rules.
-/
theorem induction_names
    (expanded : Expanded drawn frontier rules)
    (property : String → Prop)
    (waiting : ∀ name ∈ frontier.waiting, property name)
    (passes : ∀ rule ∈ rules, property rule.lhs →
      ∀ name ∈ rule.nonterminals, name ∈ frontier.unseen → property name) :
    ∀ rule ∈ rules, property rule.lhs := by
  induction expanded with
  | done =>
      intro rule member
      cases member
  | @next first waiting unseen later _ _ inductionHypothesis =>
      have holds : property first.lhs := waiting _ (List.mem_cons_self ..)
      intro rule member
      rcases List.mem_cons.1 member with rfl | isLater
      · exact holds
      · refine inductionHypothesis ?_ ?_ rule isLater
        · intro name waits
          rcases Frontier.waiting_or_met waits with waited | ⟨met, isUnseen⟩
          · exact waiting name (List.mem_cons_of_mem _ waited)
          · exact passes first (List.mem_cons_self ..) holds name met isUnseen
        · intro other isOther holdsOther name mentions isUnseen
          exact passes other (List.mem_cons_of_mem _ isOther) holdsOther name mentions
            (Frontier.mem_unseen_foldl_enqueue.1 isUnseen).1

/-- Only names that waited or were unseen get rules. -/
theorem waiting_or_unseen
    (expanded : Expanded drawn frontier rules)
    {rule : Rule}
    (member : rule ∈ rules) :
    rule.lhs ∈ frontier.waiting ∨ rule.lhs ∈ frontier.unseen :=
  expanded.induction_names
    (fun name => name ∈ frontier.waiting ∨ name ∈ frontier.unseen)
    (fun _ waits => .inl waits)
    (fun _ _ _ _ _ unseen => .inr unseen)
    rule member

/-- No name gets two rules. -/
theorem nodup_names
    (expanded : Expanded drawn frontier rules)
    (clean : frontier.Clean) :
    (rules.map Rule.lhs).Nodup := by
  induction expanded with
  | done => exact List.nodup_nil
  | @next first waiting unseen later _ expanded inductionHypothesis =>
      rw [List.map_cons, List.nodup_cons]
      refine ⟨?_, inductionHypothesis (clean.rest.foldl_enqueue _)⟩
      intro again
      obtain ⟨rule, isLater, same⟩ := List.mem_map.1 again
      have notWaiting : first.lhs ∉ waiting := (List.nodup_cons.1 clean.distinct).1
      have notUnseen : first.lhs ∉ unseen := clean.apart _ (List.mem_cons_self ..)
      rcases expanded.waiting_or_unseen isLater with waits | isUnseen
      · rcases Frontier.waiting_or_met waits with waited | ⟨-, wasUnseen⟩
        · exact notWaiting (same ▸ waited)
        · exact notUnseen (same ▸ wasUnseen)
      · exact notUnseen (same ▸ (Frontier.mem_unseen_foldl_enqueue.1 isUnseen).1)

end Expanded

/-- The frontier that is left when the rule of the root has been drawn. -/
def behind (root : Rule) (names : List String) : Frontier :=
  root.nonterminals.foldl Frontier.enqueue
    { waiting := [], unseen := Frontier.forget root.lhs names.eraseDups }

/-- The rules that an expansion from a root can yield. -/
inductive ExpandedFromRoot
    (drawnRoot drawn : Rule → Prop)
    (names : List String) :
    List Rule → Prop
  /-- The rule of the root stands in front of all that it reaches. -/
  | intro {root : Rule} {others : List Rule} :
      drawnRoot root →
      Expanded drawn (behind root names) others →
      ExpandedFromRoot drawnRoot drawn names (root :: others)

/-- An expansion from a root by draws yields rules that are drawn one after another. -/
theorem fromRoot_gives
    {σ : Type}
    {rootRule : Draw σ Rule}
    {ruleFor : String → Draw σ Rule}
    {drawnRoot drawn : Rule → Prop}
    (givesRoot : rootRule.Gives drawnRoot)
    (gives : ∀ name, (ruleFor name).Gives fun rule => rule.lhs = name ∧ drawn rule)
    (names : List String) :
    Draw.Gives (fromRoot rootRule ruleFor names)
      (ExpandedFromRoot drawnRoot drawn names) := by
  refine givesRoot.bind ?_
  intro root isDrawn
  refine (rules_gives gives (behind root names)).bind ?_
  intro others expanded
  exact .pure (.intro isDrawn expanded)

/-- The frontier behind the root is clean. -/
theorem clean_behind (root : Rule) (names : List String) : (behind root names).Clean := by
  apply Frontier.Clean.foldl_enqueue
  constructor
  · exact List.nodup_nil
  · intro name waits
    cases waits

/-- Behind the root only other names can be met. -/
theorem mem_of_behind
    {root : Rule}
    {names : List String}
    {name : String}
    (known : name ∈ (behind root names).waiting ∨ name ∈ (behind root names).unseen) :
    name ∈ names ∧ name ≠ root.lhs := by
  have unseen : name ∈ Frontier.forget root.lhs names.eraseDups := by
    rcases known with waits | isUnseen
    · rcases Frontier.waiting_or_met waits with waited | ⟨-, wasUnseen⟩
      · cases waited
      · exact wasUnseen
    · exact (Frontier.mem_unseen_foldl_enqueue.1 isUnseen).1
  obtain ⟨member, different⟩ := Frontier.mem_forget.1 unseen
  exact ⟨List.mem_eraseDups.1 member, different⟩

/-- Another name that the root mentions waits behind it. -/
theorem waits_behind
    {root : Rule}
    {names : List String}
    {name : String}
    (mentions : name ∈ root.nonterminals)
    (member : name ∈ names)
    (different : name ≠ root.lhs) :
    name ∈ (behind root names).waiting :=
  Frontier.waits_of_met mentions
    (Frontier.mem_forget.2 ⟨List.mem_eraseDups.2 member, different⟩)

section Behind

variable {drawn : Rule → Prop} {names : List String} {root : Rule} {others : List Rule}

/-- The rules behind the root are for other names among the given ones. -/
theorem Expanded.lhs_mem
    (expanded : Expanded drawn (behind root names) others)
    {rule : Rule}
    (member : rule ∈ others) :
    rule.lhs ∈ names ∧ rule.lhs ≠ root.lhs :=
  mem_of_behind (expanded.waiting_or_unseen member)

/-- No name has two rules. -/
theorem Expanded.nodup_names_cons
    (expanded : Expanded drawn (behind root names) others) :
    ((root :: others).map Rule.lhs).Nodup := by
  rw [List.map_cons, List.nodup_cons]
  refine ⟨?_, expanded.nodup_names (clean_behind root names)⟩
  intro again
  obtain ⟨rule, member, same⟩ := List.mem_map.1 again
  exact (expanded.lhs_mem member).2 same

/-- Every given name but the root that is mentioned has a rule behind the root. -/
theorem Expanded.defined
    (expanded : Expanded drawn (behind root names) others)
    {rule : Rule}
    (member : rule ∈ root :: others)
    {name : String}
    (mentions : name ∈ rule.nonterminals)
    (given : name ∈ names)
    (different : name ≠ root.lhs) :
    name ∈ others.map Rule.lhs := by
  by_cases ofRoot : name ∈ root.nonterminals
  · exact expanded.mem_names_of_waiting (waits_behind ofRoot given different)
  · rcases List.mem_cons.1 member with rfl | isOther
    · exact absurd mentions ofRoot
    · exact expanded.mem_names_of_mentioned isOther mentions
        (Frontier.mem_unseen_foldl_enqueue.2
          ⟨Frontier.mem_forget.2 ⟨List.mem_eraseDups.2 given, different⟩, ofRoot⟩)

/--
What holds of the root, and passes from every rule on to the names that it mentions,
holds of all names with rules.
-/
theorem Expanded.induction_from_root
    (expanded : Expanded drawn (behind root names) others)
    (property : String → Prop)
    (start : property root.lhs)
    (passes : ∀ rule ∈ root :: others, property rule.lhs →
      ∀ name ∈ rule.nonterminals, property name) :
    ∀ rule ∈ root :: others, property rule.lhs := by
  intro rule member
  rcases List.mem_cons.1 member with rfl | isOther
  · exact start
  · refine expanded.induction_names property ?_ ?_ rule isOther
    · intro name waits
      rcases Frontier.waiting_or_met waits with waited | ⟨met, -⟩
      · cases waited
      · exact passes root (List.mem_cons_self ..) start name met
    · intro other isMember holds name mentions _
      exact passes other (List.mem_cons_of_mem _ isMember) holds name mentions

end Behind

/-- The names reached are those known before and those that an alternative mentions. -/
theorem mem_extend
    {alternatives : List Alternative}
    {known : List String}
    {name : String} :
    name ∈ Reachability.extend alternatives known ↔
      name ∈ known ∨ ∃ alternative ∈ alternatives, name ∈ alternative.nonterminals := by
  have insertsAll (names : List String) :
      name ∈ names.foldl (fun reached other => reached.insert other) known ↔
        name ∈ known ∨ name ∈ names := by
    induction names generalizing known with
    | nil => simp
    | cons other names inductionHypothesis =>
        rw [List.foldl_cons, inductionHypothesis, List.mem_insert_iff, List.mem_cons]
        tauto
  rw [Reachability.extend, insertsAll, List.mem_flatMap]

/-- An accepted grammar is the expanded one; it mentions all selected names and is productive. -/
theorem accept?_eq_some
    {selected : List String}
    {expanded : List Rule}
    {grammar : Grammar}
    (accepted : accept? selected expanded = some grammar) :
    grammar = { rules := expanded } ∧
      grammar.isProductive = true ∧
      ∀ name ∈ selected, ∃ rule ∈ expanded, name ∈ rule.nonterminals := by
  unfold accept? at accepted
  obtain ⟨holds, same⟩ := Option.ite_none_right_eq_some.1 accepted
  cases same
  obtain ⟨noneLeft, isProductive⟩ := Bool.and_eq_true_iff.1 holds
  refine ⟨rfl, isProductive, ?_⟩
  intro name isSelected
  have reached :
      (Reachability.extend (Grammar.alternatives { rules := expanded }) []).contains name =
        true := by
    have left := List.filter_eq_nil_iff.1 (List.isEmpty_iff.1 noneLeft) name isSelected
    simpa using left
  rcases mem_extend.1 (List.contains_iff_mem.1 reached) with known | ⟨alternative, among, mentions⟩
  · cases known
  · obtain ⟨rule, member, isAlternative⟩ := Grammar.mem_alternatives.1 among
    exact ⟨rule, member, List.mem_flatMap.2 ⟨alternative, isAlternative, mentions⟩⟩

end Expansion

end GrammarCorpus
