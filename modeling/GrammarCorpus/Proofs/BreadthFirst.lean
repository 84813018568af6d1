import GrammarCorpus.Proofs.DerivationTree
import GrammarCorpus.Proofs.Expansion
import GrammarCorpus.Proofs.Search
import Mathlib.Tactic.FinCases

namespace GrammarCorpus

/-!
# Expansion is breadth-first

If the rules come from a table that has one for every name that can be reached, an expansion
comes to its end. It yields the rules of exactly these names, each once, in the order in
which the names appear when the rules are read one after another.

The names stand in nondecreasing distance from the root. For this a frontier is kept level:
the waiting names are sorted by distance, none of them is more than one step behind another,
and an unseen name is mentioned only by names that wait or are unseen themselves.
-/

namespace Expansion

section Order

variable {drawn : Rule → Prop} {frontier : Frontier} {rules : List Rule}

/-- New names of two lists are those of the first, then what the first left unseen. -/
theorem fresh_append (first second unseen : List String) :
    Frontier.fresh (first ++ second) unseen =
      Frontier.fresh first unseen ++
        Frontier.fresh second (unseen.filter (· ∉ first)) := by
  unfold Frontier.fresh
  rw [List.filter_append, List.eraseDups_append, List.removeAll, List.filter_filter]
  congr 2
  apply List.filter_congr
  intro name _
  by_cases isFirst : name ∈ first <;> by_cases isUnseen : name ∈ unseen <;>
    simp [isFirst, isUnseen]

/-- The waiting names come first, then all others in the order of first appearance. -/
theorem Expanded.names_eq (expanded : Expanded drawn frontier rules) :
    rules.map Rule.lhs =
      frontier.waiting ++
        Frontier.fresh (rules.flatMap Rule.nonterminals) frontier.unseen := by
  induction expanded with
  | done => rfl
  | @next rule waiting unseen later _ _ inductionHypothesis =>
      rw [List.map_cons, inductionHypothesis, Frontier.foldl_enqueue, List.flatMap_cons,
        fresh_append, List.append_assoc, List.cons_append]

/-- What waits behind the root and what is new to the rest are all names in order, if given. -/
theorem waiting_behind_append
    {root : Rule}
    {others : List Rule}
    {names : List String}
    (given : ∀ rule ∈ root :: others, ∀ name ∈ rule.nonterminals,
      name ≠ root.lhs → name ∈ names) :
    (behind root names).waiting ++
        Frontier.fresh (others.flatMap Rule.nonterminals) (behind root names).unseen =
      (((root :: others).flatMap Rule.nonterminals).filter (· ≠ root.lhs)).eraseDups := by
  rw [behind, Frontier.foldl_enqueue, List.nil_append, ← fresh_append, ← List.flatMap_cons]
  unfold Frontier.fresh
  congr 1
  apply List.filter_congr
  intro name occurs
  obtain ⟨rule, member, mentions⟩ := List.mem_flatMap.1 occurs
  by_cases isRoot : name = root.lhs
  · simp [Frontier.mem_forget, isRoot]
  · simp [Frontier.mem_forget, isRoot, List.mem_eraseDups, given rule member name mentions isRoot]

/-- Behind the root names stand in the order of their first appearance, if all are given. -/
theorem Expanded.names_behind
    {root : Rule}
    {others : List Rule}
    {names : List String}
    (expanded : Expanded drawn (behind root names) others)
    (given : ∀ rule ∈ root :: others, ∀ name ∈ rule.nonterminals,
      name ≠ root.lhs → name ∈ names) :
    (root :: others).map Rule.lhs =
      root.lhs ::
        (((root :: others).flatMap Rule.nonterminals).filter (· ≠ root.lhs)).eraseDups := by
  rw [List.map_cons, expanded.names_eq, waiting_behind_append given]

end Order

/-- From a name so many steps lead to another; each step goes on to a mentioned name. -/
inductive Reaches (table : List Rule) (start : String) : Nat → String → Prop
  /-- No step is needed to the start. -/
  | start : Reaches table start 0 start
  /-- A reached name leads to all names that its rule mentions. -/
  | step {steps : Nat} {name other : String} {rule : Rule} :
      Reaches table start steps name →
      lookup table name = .ok rule →
      other ∈ rule.nonterminals →
      Reaches table start (steps + 1) other

/-- The first name is not farther from the start than the second. -/
def NotFarther (table : List Rule) (start first second : String) : Prop :=
  ∀ steps, Reaches table start steps second → ∃ fewer ≤ steps, Reaches table start fewer first

/-- The table has a rule for every name that can be reached. -/
def Complete (table : List Rule) (start : String) : Prop :=
  ∀ steps name, Reaches table start steps name → ∃ rule, lookup table name = .ok rule

section Table

variable {table : List Rule} {start name : String} {rule : Rule}

/-- A rule that is looked up is one of the table, and belongs to the name. -/
theorem mem_of_lookup (found : lookup table name = .ok rule) :
    rule ∈ table ∧ rule.lhs = name := by
  unfold lookup at found
  split at found
  · rename_i other isFirst
    cases found
    exact ⟨List.mem_reverse.1 (List.mem_of_find?_eq_some isFirst),
      by simpa using List.find?_some isFirst⟩
  · cases found

/-- Rules that are looked up are expanded to the end if all that is met has a rule. -/
theorem rules_of_lookup
    (frontier : Frontier)
    (property : String → Prop)
    (waiting : ∀ name ∈ frontier.waiting, property name)
    (passes : ∀ name, property name →
      ∃ rule, lookup table name = .ok rule ∧ ∀ other ∈ rule.nonterminals, property other) :
    ∃ found, rules (lookup table) frontier = .ok found ∧
      Expanded (fun rule => lookup table rule.lhs = .ok rule) frontier found := by
  induction frontier using rules.induct with
  | case1 unseen => exact ⟨[], by rw [rules]; rfl, .done⟩
  | case2 name rest unseen inductionHypothesis =>
      obtain ⟨rule, isRule, mentioned⟩ := passes name (waiting name List.mem_cons_self)
      obtain ⟨-, rfl⟩ := mem_of_lookup isRule
      obtain ⟨later, isLater, expanded⟩ := inductionHypothesis rule (by
        intro other waits
        rcases Frontier.waiting_or_met waits with waited | ⟨met, -⟩
        · exact waiting other (List.mem_cons_of_mem _ waited)
        · exact mentioned other met)
      refine ⟨rule :: later, ?_, .next isRule expanded⟩
      rw [rules, isRule]
      change (do
        let later ← rules (lookup table) _
        return rule :: later : Except String (List Rule)) = _
      rw [isLater]
      rfl

/-- A frontier whose waiting names are sorted by distance, and whose unseen ones are farther. -/
structure Level (table : List Rule) (start : String) (frontier : Frontier) : Prop where
  /-- Every waiting name can be reached. -/
  reached : ∀ name ∈ frontier.waiting, ∃ steps, Reaches table start steps name
  sorted : frontier.waiting.Pairwise (NotFarther table start)
  /-- No waiting name is more than one step behind another. -/
  near : ∀ name ∈ frontier.waiting, ∀ other ∈ frontier.waiting, ∀ steps,
    Reaches table start steps name → ∃ fewer ≤ steps + 1, Reaches table start fewer other
  /-- Unseen names are mentioned only by names that have not been expanded. -/
  pending : ∀ name rule, lookup table name = .ok rule →
    (∃ steps, Reaches table start steps name) →
    ∀ other ∈ rule.nonterminals, other ∈ frontier.unseen →
      name ∈ frontier.waiting ∨ name ∈ frontier.unseen
  startSeen : start ∉ frontier.unseen

namespace Level

variable {waiting unseen : List String}

/-- The first waiting name is strictly nearer than all unseen ones. -/
theorem nearer
    (level : Level table start { waiting := name :: waiting, unseen })
    {steps : Nat}
    {other : String}
    (isUnseen : other ∈ unseen)
    (reaches : Reaches table start steps other) :
    ∃ fewer < steps, Reaches table start fewer name := by
  induction reaches with
  | start => exact absurd isUnseen level.startSeen
  | @step steps middle other rule reachesMiddle isRule mentions inductionHypothesis =>
      -- The name before it on the way waits, or is unseen and farther itself.
      rcases level.pending middle rule isRule ⟨steps, reachesMiddle⟩ other mentions isUnseen with
        waits | middleUnseen
      · rcases List.mem_cons.1 waits with rfl | waitsLater
        · exact ⟨steps, Nat.lt_succ_self _, reachesMiddle⟩
        · obtain ⟨fewer, atMost, reachesFirst⟩ :=
            (List.pairwise_cons.1 level.sorted).1 middle waitsLater steps reachesMiddle
          exact ⟨fewer, Nat.lt_succ_of_le atMost, reachesFirst⟩
      · obtain ⟨fewer, less, reachesFirst⟩ := inductionHypothesis middleUnseen
        exact ⟨fewer, Nat.lt_succ_of_lt less, reachesFirst⟩

/-- The first waiting name is not farther than any other that is left. -/
theorem notFarther
    (level : Level table start { waiting := name :: waiting, unseen })
    {other : String}
    (left : other ∈ waiting ∨ other ∈ unseen) :
    NotFarther table start name other := by
  intro steps reaches
  rcases left with waits | isUnseen
  · exact (List.pairwise_cons.1 level.sorted).1 other waits steps reaches
  · obtain ⟨fewer, less, reachesFirst⟩ := level.nearer isUnseen reaches
    exact ⟨fewer, Nat.le_of_lt less, reachesFirst⟩

/-- The frontier stays level when its first name is expanded. -/
theorem next
    (level : Level table start { waiting := rule.lhs :: waiting, unseen })
    (isRule : lookup table rule.lhs = .ok rule) :
    Level table start
      (rule.nonterminals.foldl Frontier.enqueue { waiting, unseen }) := by
  have first : rule.lhs ∈ rule.lhs :: waiting := List.mem_cons_self
  have old : ∀ {name}, name ∈ waiting → name ∈ rule.lhs :: waiting :=
    fun waits => List.mem_cons_of_mem _ waits
  -- A new name is one step behind the name that was expanded.
  have behind : ∀ {steps name}, name ∈ rule.nonterminals →
      Reaches table start steps rule.lhs → Reaches table start (steps + 1) name :=
    fun mentions reaches => reaches.step isRule mentions
  constructor
  · intro name waits
    rcases Frontier.waiting_or_met waits with waited | ⟨met, -⟩
    · exact level.reached name (old waited)
    · obtain ⟨steps, reaches⟩ := level.reached rule.lhs first
      exact ⟨steps + 1, behind met reaches⟩
  · rw [Frontier.foldl_enqueue]
    refine List.pairwise_append.2 ⟨(List.pairwise_cons.1 level.sorted).2, ?_, ?_⟩
    · refine List.Pairwise.imp_of_mem ?_ (Frontier.nodup_fresh _ _)
      intro name other isNew otherIsNew _ steps reaches
      obtain ⟨fewer, less, reachesFirst⟩ :=
        level.nearer (Frontier.mem_fresh.1 otherIsNew).2 reaches
      exact ⟨fewer + 1, less, behind (Frontier.mem_fresh.1 isNew).1 reachesFirst⟩
    · intro name waited other isNew steps reaches
      obtain ⟨fewer, less, reachesFirst⟩ :=
        level.nearer (Frontier.mem_fresh.1 isNew).2 reaches
      obtain ⟨least, atMost, reachesName⟩ :=
        level.near rule.lhs first name (old waited) fewer reachesFirst
      exact ⟨least, by omega, reachesName⟩
  · intro name waits other otherWaits steps reaches
    have nearest : ∃ fewer ≤ steps, Reaches table start fewer rule.lhs := by
      rcases Frontier.waiting_or_met waits with waited | ⟨-, isUnseen⟩
      · exact level.notFarther (.inl waited) steps reaches
      · exact level.notFarther (.inr isUnseen) steps reaches
    obtain ⟨fewer, atMost, reachesFirst⟩ := nearest
    rcases Frontier.waiting_or_met otherWaits with waited | ⟨met, -⟩
    · obtain ⟨least, atMostOne, reachesOther⟩ :=
        level.near rule.lhs first other (old waited) fewer reachesFirst
      exact ⟨least, by omega, reachesOther⟩
    · exact ⟨fewer + 1, by omega, behind met reachesFirst⟩
  · intro name otherRule isOther reached other mentions isUnseen
    obtain ⟨wasUnseen, notMet⟩ := Frontier.mem_unseen_foldl_enqueue.1 isUnseen
    rcases level.pending name otherRule isOther reached other mentions wasUnseen with
      waits | nameUnseen
    · rcases List.mem_cons.1 waits with rfl | waited
      · cases isOther.symm.trans isRule
        exact absurd mentions notMet
      · exact .inl (Frontier.waits_of_waits _ waited)
    · by_cases met : name ∈ rule.nonterminals
      · exact .inl (Frontier.waits_of_met met nameUnseen)
      · exact .inr (Frontier.mem_unseen_foldl_enqueue.2 ⟨nameUnseen, met⟩)
  · intro isUnseen
    exact level.startSeen (Frontier.mem_unseen_foldl_enqueue.1 isUnseen).1

/-- From a level frontier names are expanded in nondecreasing distance. -/
theorem pairwise_names
    {frontier : Frontier}
    {rules : List Rule}
    (level : Level table start frontier)
    (expanded : Expanded (fun rule => lookup table rule.lhs = .ok rule) frontier rules) :
    (rules.map Rule.lhs).Pairwise (NotFarther table start) := by
  induction expanded with
  | done => exact .nil
  | @next rule waiting unseen later isRule expanded inductionHypothesis =>
      rw [List.map_cons, List.pairwise_cons]
      refine ⟨?_, inductionHypothesis (level.next isRule)⟩
      intro name isLater
      obtain ⟨other, member, rfl⟩ := List.mem_map.1 isLater
      refine level.notFarther ?_
      rcases expanded.waiting_or_unseen member with waits | isUnseen
      · exact (Frontier.waiting_or_met waits).imp_right And.right
      · exact .inr (Frontier.mem_unseen_foldl_enqueue.1 isUnseen).1

end Level

end Table

/-- The rules that an expansion from a table yields, the root in front. -/
structure Yields (table : List Rule) (root : Rule) (others : List Rule) : Prop where
  isRoot : lookup table root.lhs = .ok root
  expanded : Expanded (fun rule => lookup table rule.lhs = .ok rule)
    (behind root (table.flatMap Rule.nonterminals)) others

namespace Yields

variable {table : List Rule} {root : Rule} {others : List Rule}

/-- A complete table is expanded to the end. -/
theorem exists_of_complete
    {start : String}
    (complete : Complete table start) :
    ∃ root others, root.lhs = start ∧
      fromTable table start = .ok (root :: others) ∧ Yields table root others := by
  obtain ⟨root, isRoot⟩ := complete 0 start .start
  obtain ⟨-, rfl⟩ := mem_of_lookup isRoot
  obtain ⟨others, isOthers, expanded⟩ :=
    rules_of_lookup (behind root (table.flatMap Rule.nonterminals))
      (fun name => ∃ steps, Reaches table root.lhs steps name)
      (by
        intro name waits
        rcases Frontier.waiting_or_met waits with waited | ⟨met, -⟩
        · cases waited
        · exact ⟨1, .step .start isRoot met⟩)
      (by
        rintro name ⟨steps, reaches⟩
        obtain ⟨rule, isRule⟩ := complete steps name reaches
        exact ⟨rule, isRule, fun other mentions => ⟨steps + 1, reaches.step isRule mentions⟩⟩)
  refine ⟨root, others, rfl, ?_, isRoot, expanded⟩
  unfold fromTable fromRoot
  rw [isRoot]
  change (do
    let others ← rules (lookup table) (behind root (table.flatMap Rule.nonterminals))
    return root :: others : Except String (List Rule)) = _
  rw [isOthers]
  rfl

/-- Every rule is the one that the table has for its name. -/
theorem isRule
    (yields : Yields table root others)
    {rule : Rule}
    (member : rule ∈ root :: others) :
    lookup table rule.lhs = .ok rule := by
  rcases List.mem_cons.1 member with rfl | isOther
  · exact yields.isRoot
  · exact yields.expanded.drawn_of_mem isOther

/-- Whatever is mentioned by a rule is mentioned in the table. -/
theorem mem_table
    (yields : Yields table root others)
    {rule : Rule}
    (member : rule ∈ root :: others)
    {name : String}
    (mentions : name ∈ rule.nonterminals) :
    name ∈ table.flatMap Rule.nonterminals :=
  List.mem_flatMap.2 ⟨rule, (mem_of_lookup (yields.isRule member)).1, mentions⟩

/-- Every mentioned name but the root has a rule behind it. -/
theorem mem_names
    (yields : Yields table root others)
    {rule : Rule}
    (member : rule ∈ root :: others)
    {name : String}
    (mentions : name ∈ rule.nonterminals)
    (different : name ≠ root.lhs) :
    name ∈ others.map Rule.lhs :=
  yields.expanded.defined member mentions (yields.mem_table member mentions) different

/-- Every mentioned name has a rule. -/
theorem exists_rule
    (yields : Yields table root others)
    {rule : Rule}
    (member : rule ∈ root :: others)
    {name : String}
    (mentions : name ∈ rule.nonterminals) :
    ∃ other ∈ root :: others, other.lhs = name := by
  by_cases isRoot : name = root.lhs
  · exact ⟨root, List.mem_cons_self, isRoot.symm⟩
  · obtain ⟨other, isOther, same⟩ :=
      List.mem_map.1 (yields.mem_names member mentions isRoot)
    exact ⟨other, List.mem_cons_of_mem _ isOther, same⟩

/-- Exactly the names that can be reached are expanded. -/
theorem mem_names_iff
    (yields : Yields table root others)
    {name : String} :
    name ∈ (root :: others).map Rule.lhs ↔ ∃ steps, Reaches table root.lhs steps name := by
  constructor
  · intro isName
    obtain ⟨rule, member, rfl⟩ := List.mem_map.1 isName
    refine yields.expanded.induction_from_root
      (fun name => ∃ steps, Reaches table root.lhs steps name) ⟨0, .start⟩ ?_ rule member
    rintro other isOther ⟨steps, reaches⟩ name mentions
    exact ⟨steps + 1, reaches.step (yields.isRule isOther) mentions⟩
  · rintro ⟨steps, reaches⟩
    induction reaches with
    | start => exact List.mem_cons_self
    | step _ isRule mentions inductionHypothesis =>
        obtain ⟨other, member, same⟩ := List.mem_map.1 inductionHypothesis
        have isOther := yields.isRule member
        rw [same, isRule] at isOther
        cases isOther
        obtain ⟨rule, isMember, rfl⟩ := yields.exists_rule member mentions
        exact List.mem_map_of_mem isMember

/-- Behind the root names stand in the order of their first appearance. -/
theorem names_eq (yields : Yields table root others) :
    (root :: others).map Rule.lhs =
      root.lhs ::
        (((root :: others).flatMap Rule.nonterminals).filter (· ≠ root.lhs)).eraseDups :=
  yields.expanded.names_behind fun _ member _ mentions _ => yields.mem_table member mentions

/-- The frontier behind the root is level. -/
theorem level (yields : Yields table root others) :
    Level table root.lhs (behind root (table.flatMap Rule.nonterminals)) := by
  have whole : Level table root.lhs {
      waiting := [root.lhs]
      unseen := Frontier.forget root.lhs (table.flatMap Rule.nonterminals).eraseDups } := by
    constructor
    · intro name waits
      exact ⟨0, List.mem_singleton.1 waits ▸ .start⟩
    · exact List.pairwise_singleton _ _
    · intro name waits other otherWaits steps reaches
      have same : name = other :=
        (List.mem_singleton.1 waits).trans (List.mem_singleton.1 otherWaits).symm
      exact ⟨steps, Nat.le_succ _, same ▸ reaches⟩
    · rintro name rule isRule ⟨steps, reaches⟩ other mentions -
      by_cases isRoot : name = root.lhs
      · exact .inl (List.mem_singleton.2 isRoot)
      · refine .inr (Frontier.mem_forget.2 ⟨List.mem_eraseDups.2 ?_, isRoot⟩)
        cases reaches with
        | start => exact absurd rfl isRoot
        | step _ isOther mentions =>
            exact List.mem_flatMap.2 ⟨_, (mem_of_lookup isOther).1, mentions⟩
    · intro isUnseen
      exact (Frontier.mem_forget.1 isUnseen).2 rfl
  exact whole.next yields.isRoot

/-- The names stand in nondecreasing distance from the root. -/
theorem pairwise_names (yields : Yields table root others) :
    ((root :: others).map Rule.lhs).Pairwise (NotFarther table root.lhs) := by
  rw [List.map_cons, List.pairwise_cons]
  refine ⟨fun _ _ _ _ => ⟨0, Nat.zero_le _, .start⟩, ?_⟩
  exact yields.level.pairwise_names yields.expanded

/-- The expanded rules are connected. -/
theorem isConnected (yields : Yields table root others) : Grammar.IsConnected root others where
  distinct := yields.expanded.nodup_names_cons
  defined _ member _ := yields.exists_rule member
  reached := yields.expanded.induction_from_root

end Yields

/-- All selected names are mentioned, and all rules behind the root have derivation trees. -/
def Acceptable (selected : List String) (expanded : List Rule) : Prop :=
  (∀ name ∈ selected, ∃ rule ∈ expanded, name ∈ rule.nonterminals) ∧
    ∀ rule ∈ expanded.drop 1, Productivity.HasTree (expanded.drop 1) rule.lhs

/-- What has been expanded is the grammar if it is acceptable, and is given up otherwise. -/
theorem accept?_of_acceptable (selected : List String) (expanded : List Rule) :
    (Acceptable selected expanded →
        accept? selected expanded = some { rules := expanded }) ∧
      (¬ Acceptable selected expanded → accept? selected expanded = none) := by
  have allReached_iff :
      (Reachability.unreached selected
          (Reachability.extend (Grammar.alternatives { rules := expanded }) [])).isEmpty =
            true ↔
        ∀ name ∈ selected, ∃ rule ∈ expanded, name ∈ rule.nonterminals := by
    rw [List.isEmpty_iff, List.eq_nil_iff_forall_not_mem]
    refine forall_congr' fun name => ?_
    rw [Grammar.mem_unreached, not_and_not_right]
    refine imp_congr_right fun _ => ?_
    rw [mem_extend, or_iff_right List.not_mem_nil]
    simp only [Grammar.mem_alternatives, Rule.mem_nonterminals,
      Alternative.mem_nonterminals]
    grind
  have decides : ((Reachability.unreached selected
      (Reachability.extend (Grammar.alternatives { rules := expanded }) [])).isEmpty &&
        Grammar.isProductive { rules := expanded }) = true ↔
      Acceptable selected expanded := by
    rw [Bool.and_eq_true, allReached_iff, Grammar.isProductive_iff_rules]
    rfl
  unfold accept?
  exact ⟨fun acceptable => if_pos (decides.2 acceptable),
    fun unacceptable => if_neg fun holds => unacceptable (decides.1 holds)⟩

/--
From a table that has a rule for every name that can be reached, an expansion comes to its
end. It yields the rules of the table for exactly these names, each once: the root first, and
the others in the order in which they appear when the rules are read, so in nondecreasing
distance from the root. The grammar of these rules is taken exactly if every selected name is
mentioned and every rule behind the root has a derivation tree. The search from the root then
finds the names of the rules behind it exactly if no rule mentions the root.
-/
theorem fromTable_breadthFirst
    (table : List Rule)
    (rootName : String)
    (selected : List String)
    (complete : Complete table rootName) :
    ∃ expanded,
      fromTable table rootName = .ok expanded ∧
        (∀ rule ∈ expanded, lookup table rule.lhs = .ok rule) ∧
        (expanded.map Rule.lhs).Nodup ∧
        (∀ name, name ∈ expanded.map Rule.lhs ↔
          ∃ steps, Reaches table rootName steps name) ∧
        expanded.map Rule.lhs =
          rootName ::
            ((expanded.flatMap Rule.nonterminals).filter (· ≠ rootName)).eraseDups ∧
        (expanded.map Rule.lhs).Pairwise (NotFarther table rootName) ∧
        (Acceptable selected expanded →
          accept? selected expanded = some { rules := expanded }) ∧
        (¬ Acceptable selected expanded → accept? selected expanded = none) ∧
        ∀ arrange, Grammar.Arranges arrange →
          ∃ verdict,
            Grammar.reachesItsRules? { rules := expanded } arrange = some verdict ∧
              (verdict = true ↔ ∀ rule ∈ expanded, rootName ∉ rule.nonterminals) := by
  obtain ⟨root, others, rfl, expands, yields⟩ := Yields.exists_of_complete complete
  obtain ⟨taken, givenUp⟩ := accept?_of_acceptable selected (root :: others)
  exact ⟨root :: others, expands, fun _ => yields.isRule,
    yields.expanded.nodup_names_cons, fun _ => yields.mem_names_iff, yields.names_eq,
    yields.pairwise_names, taken, givenUp, fun _ => yields.isConnected.reachesItsRules⟩

/-- A cycle with two ways out of the root; one rule of the table cannot be reached. -/
theorem fromTable_breadthFirst_of_cycle :
    let table : List Rule := [
      ⟨"D", [⟨[.nonterminal "A"]⟩]⟩,
      ⟨"B", [⟨[.nonterminal "C", .nonterminal "A"]⟩, ⟨[.nonterminal "root"]⟩]⟩,
      ⟨"A", [⟨[.terminal "a", .nonterminal "A"]⟩, ⟨[]⟩]⟩,
      ⟨"root", [⟨[.nonterminal "B", .nonterminal "A"]⟩]⟩,
      ⟨"C", [⟨[.nonterminal "A"]⟩]⟩]
    Complete table "root" ∧
      ∃ expanded,
        fromTable table "root" = .ok expanded ∧
          expanded.map Rule.lhs = ["root", "B", "A", "C"] ∧
          (expanded.map Rule.lhs).Pairwise (NotFarther table "root") ∧
          ∃ verdict,
            Grammar.reachesItsRules? { rules := expanded } id = some verdict ∧
              (verdict = true ↔ ∀ rule ∈ expanded, "root" ∉ rule.nonterminals) := by
  intro table
  have complete : Complete table "root" := by
    have closed : ∀ name ∈ ["root", "A", "B", "C"],
        ∃ rule, lookup table name = .ok rule ∧
          ∀ other ∈ rule.nonterminals, other ∈ ["root", "A", "B", "C"] := by
      intro name member
      fin_cases member <;> exact ⟨_, rfl, by decide⟩
    have inside : ∀ steps name, Reaches table "root" steps name →
        name ∈ ["root", "A", "B", "C"] := by
      intro steps name reaches
      induction reaches with
      | start => decide
      | step _ isRule mentions inductionHypothesis =>
          obtain ⟨rule, isSame, mentioned⟩ := closed _ inductionHypothesis
          cases isSame.symm.trans isRule
          exact mentioned _ mentions
    intro steps name reaches
    obtain ⟨rule, isRule, -⟩ := closed name (inside steps name reaches)
    exact ⟨rule, isRule⟩
  obtain ⟨expanded, expands, -, -, -, -, sorted, -, -, searched⟩ :=
    fromTable_breadthFirst table "root" ["A", "B", "C"] complete
  refine ⟨complete, expanded, expands, ?_, sorted, searched id fun _ => .refl _⟩
  have names : ((fromTable table "root").map (List.map Rule.lhs)).toOption =
      some ["root", "B", "A", "C"] := by decide +kernel
  rw [expands] at names
  exact Option.some.inj names

end Expansion

end GrammarCorpus
