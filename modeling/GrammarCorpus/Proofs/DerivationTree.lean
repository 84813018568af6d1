import GrammarCorpus.Proofs.Frontier
import GrammarCorpus.Proofs.Productivity
import Mathlib.Data.List.Perm.Subperm

namespace GrammarCorpus

/-!
# Productive names and derivation trees

A name is productive exactly if it is the root of a derivation tree. The sweeps find such
names only, because a tree for a name can be put together from trees for the names of one
alternative. They find all of them, because the last sweep found nothing: what is known then
is closed under the rules, and no tree leads out of a closed set.

Every sweep but the last finds a name, so there is at most one sweep more than names.
-/

/--
A tree with terminals at its leaves and names at its inner nodes. An inner node without
children stands for an alternative without symbols.
-/
inductive DerivationTree where
  | leaf (terminal : String)
  | node (name : String) (children : List DerivationTree)

namespace DerivationTree

/-- The symbol at the root of a tree. -/
def symbol : DerivationTree → Symbol
  | leaf terminal => .terminal terminal
  | node name _ => .nonterminal name

/-- Every inner node has the symbols of an alternative of one of the rules below it. -/
inductive Follows (rules : List Rule) : DerivationTree → Prop
  /-- A terminal needs no rule. -/
  | leaf (terminal : String) : Follows rules (leaf terminal)
  /-- A name is followed by one of its alternatives. -/
  | node {rule : Rule} {alternative : Alternative} {children : List DerivationTree} :
      rule ∈ rules →
      alternative ∈ rule.alternatives →
      children.map symbol = alternative.symbols →
      (∀ child ∈ children, Follows rules child) →
      Follows rules (node rule.lhs children)

/-- Trees for all names among some symbols, and leaves, stand in a row over the symbols. -/
theorem exists_children
    {rules : List Rule}
    {symbols : List Symbol}
    (each : ∀ name, .nonterminal name ∈ symbols →
      ∃ tree : DerivationTree, tree.symbol = .nonterminal name ∧ tree.Follows rules) :
    ∃ children : List DerivationTree,
      children.map symbol = symbols ∧ ∀ child ∈ children, child.Follows rules := by
  induction symbols with
  | nil => exact ⟨[], rfl, nofun⟩
  | cons first others inductionHypothesis =>
      have first : ∃ tree : DerivationTree, tree.symbol = first ∧ tree.Follows rules := by
        cases first with
        | terminal name => exact ⟨leaf name, rfl, .leaf name⟩
        | nonterminal name => exact each name List.mem_cons_self
      obtain ⟨tree, atRoot, follows⟩ := first
      obtain ⟨children, inRow, followsAll⟩ := inductionHypothesis fun name member =>
        each name (List.mem_cons_of_mem _ member)
      refine ⟨tree :: children, ?_, ?_⟩
      · rw [List.map_cons, atRoot, inRow]
      · exact List.forall_mem_cons.2 ⟨follows, followsAll⟩

end DerivationTree

namespace Productivity

/-- A name has a derivation tree by some rules. -/
def HasTree (rules : List Rule) (name : String) : Prop :=
  ∃ tree : DerivationTree, tree.symbol = .nonterminal name ∧ tree.Follows rules

/-- An alternative passes trees from its names on to the name of its rule. -/
theorem passes_hasTree (rules : List Rule) : Passes (HasTree rules) rules := by
  intro rule isRule alternative isAlternative each
  obtain ⟨children, inRow, follow⟩ :=
    DerivationTree.exists_children fun name member =>
      each name (Alternative.mem_nonterminals.2 member)
  exact ⟨.node rule.lhs children, rfl, .node isRule isAlternative inRow follow⟩

/-- Trees depend on which rules there are, and not on their order. -/
theorem HasTree.mono
    {rules more : List Rule}
    {name : String}
    (hasTree : HasTree rules name)
    (subset : rules ⊆ more) :
    HasTree more name := by
  obtain ⟨tree, atRoot, follows⟩ := hasTree
  refine ⟨tree, atRoot, ?_⟩
  clear atRoot
  induction follows with
  | leaf terminal => exact .leaf terminal
  | node isRule isAlternative inRow _ inductionHypothesis =>
      exact .node (subset isRule) isAlternative inRow inductionHypothesis

/-- Every name of a justified rule is known. -/
def Closed (known : List String) (rules : List Rule) : Prop :=
  ∀ rule ∈ rules, justifies known rule = true → rule.lhs ∈ known

/-- A tree does not lead out of what is closed under its rules. -/
theorem Closed.mem_of_hasTree
    {known : List String}
    {rules : List Rule}
    {name : String}
    (closed : Closed known rules)
    (hasTree : HasTree rules name) :
    name ∈ known := by
  obtain ⟨tree, atRoot, follows⟩ := hasTree
  induction follows generalizing name with
  | leaf terminal => cases atRoot
  | @node rule alternative children isRule isAlternative inRow _ inductionHypothesis =>
      cases atRoot
      refine closed rule isRule (justifies_iff.2 ⟨alternative, isAlternative, ?_⟩)
      intro other mentions
      have member : .nonterminal other ∈ children.map DerivationTree.symbol :=
        inRow ▸ Alternative.mem_nonterminals.1 mentions
      obtain ⟨child, isChild, childRoot⟩ := List.mem_map.1 member
      exact inductionHypothesis child isChild childRoot

section Sweep

variable {known : List String} {rules : List Rule}

/-- A sweep puts new names in front of those known before. -/
theorem sweep_known_suffix (known : List String) (rules : List Rule) :
    known <:+ (sweep known rules).2 := by
  induction rules generalizing known with
  | nil => exact List.suffix_refl known
  | cons rule rules inductionHypothesis =>
      unfold sweep
      split
      · exact inductionHypothesis known
      · split
        · exact (List.suffix_cons _ _).trans (inductionHypothesis _)
        · exact inductionHypothesis known

/-- A sweep finds no name twice. -/
theorem sweep_known_nodup
    (distinct : known.Nodup) :
    (sweep known rules).2.Nodup := by
  induction rules generalizing known with
  | nil => exact distinct
  | cons rule rules inductionHypothesis =>
      unfold sweep
      split
      · exact inductionHypothesis distinct
      · rename_i unknown
        have new : rule.lhs ∉ known := fun member =>
          unknown (List.contains_iff_mem.2 member)
        split
        · exact inductionHypothesis (List.nodup_cons.2 ⟨new, distinct⟩)
        · exact inductionHypothesis distinct

/-- A rule that a sweep does not leave open has a known name. -/
theorem known_or_open
    {rule : Rule}
    (member : rule ∈ rules) :
    rule.lhs ∈ (sweep known rules).2 ∨ rule ∈ (sweep known rules).1 := by
  induction rules generalizing known with
  | nil => cases member
  | cons first rules inductionHypothesis =>
      unfold sweep
      split
      · rename_i isKnown
        rcases List.mem_cons.1 member with rfl | isLater
        · exact .inl ((sweep_known_suffix _ _).subset (List.contains_iff_mem.1 isKnown))
        · exact inductionHypothesis isLater
      · split
        · rcases List.mem_cons.1 member with rfl | isLater
          · exact .inl ((sweep_known_suffix _ _).subset List.mem_cons_self)
          · exact inductionHypothesis isLater
        · rcases List.mem_cons.1 member with rfl | isLater
          · exact .inr List.mem_cons_self
          · exact (inductionHypothesis isLater).imp_right (List.mem_cons_of_mem _)

/-- What is known is closed if a sweep finds nothing. -/
theorem closed_of_sweep_eq
    (nothing : (sweep known rules).2 = known) :
    Closed known rules := by
  induction rules with
  | nil => exact nofun
  | cons first rules inductionHypothesis =>
      intro rule member justified
      unfold sweep at nothing
      split at nothing
      · rename_i isKnown
        rcases List.mem_cons.1 member with rfl | isLater
        · exact List.contains_iff_mem.1 isKnown
        · exact inductionHypothesis nothing rule isLater justified
      · split at nothing
        · -- A name that is found makes the list longer.
          have longer := (sweep_known_suffix (first.lhs :: known) rules).length_le
          rw [nothing, List.length_cons] at longer
          exact absurd longer (Nat.not_succ_le_self _)
        · rename_i unjustified
          rcases List.mem_cons.1 member with rfl | isLater
          · exact absurd justified unjustified
          · exact inductionHypothesis nothing rule isLater justified

/-- What is known at the end is closed under all rules, if only open ones were left out. -/
theorem settle_closed
    {all : List Rule}
    {before : Nat}
    (accounted : ∀ rule ∈ all, rule.lhs ∈ known ∨ rule ∈ rules) :
    Closed (settle rules known before).names all := by
  induction rules, known, before using settle.induct with
  | case1 rules known before grown inductionHypothesis =>
      rw [settle, dif_pos grown]
      refine inductionHypothesis ?_
      intro rule member
      rcases accounted rule member with isKnown | isOpen
      · exact .inl ((sweep_known_suffix known rules).subset isKnown)
      · exact known_or_open isOpen
  | case2 rules known before settled =>
      have nothing : (sweep known rules).2 = known :=
        ((sweep_known_suffix known rules).eq_of_length_le (Nat.not_lt.1 settled)).symm
      rw [settle, dif_neg settled, nothing]
      intro rule member justified
      rcases accounted rule member with isKnown | isOpen
      · exact isKnown
      · exact closed_of_sweep_eq nothing rule isOpen justified

/-- The sweeps find no name twice. -/
theorem settle_names_nodup
    {before : Nat}
    (distinct : known.Nodup) :
    (settle rules known before).names.Nodup := by
  induction rules, known, before using settle.induct with
  | case1 rules known before grown inductionHypothesis =>
      rw [settle, dif_pos grown]
      exact inductionHypothesis (sweep_known_nodup distinct)
  | case2 rules known before settled =>
      rw [settle, dif_neg settled]
      exact sweep_known_nodup distinct

/-- Every sweep but the last finds a name. -/
theorem sweeps_le (rules : List Rule) (known : List String) (before : Nat) :
    (settle rules known before).sweeps + known.length ≤
      (settle rules known before).names.length + before + 1 := by
  induction rules, known, before using settle.induct with
  | case1 rules known before grown inductionHypothesis =>
      rw [settle, dif_pos grown]
      omega
  | case2 rules known before settled =>
      rw [settle, dif_neg settled]
      have longer := (sweep_known_suffix known rules).length_le
      simp only
      omega

end Sweep

end Productivity

namespace Grammar

open Productivity (HasTree)

variable {grammar : Grammar} {name : String}

/-- The productive names are those with a derivation tree by the rules behind the root. -/
theorem mem_productive_iff :
    name ∈ grammar.productive ↔ HasTree (grammar.rules.drop 1) name := by
  constructor
  · exact grammar.productive_induction _ (Productivity.passes_hasTree _) name
  · intro hasTree
    have closed : Productivity.Closed grammar.productive (grammar.rules.drop 1) :=
      Productivity.settle_closed fun _ => .inr
    exact closed.mem_of_hasTree hasTree

/-- Only names of rules behind the root are productive, and none is listed twice. -/
theorem productive_subperm (grammar : Grammar) :
    grammar.productive.Subperm (grammar.names.drop 1).eraseDups := by
  refine List.subperm_of_subset (Productivity.settle_names_nodup List.nodup_nil) ?_
  intro name isProductive
  rw [List.mem_eraseDups]
  refine grammar.productive_induction (· ∈ grammar.names.drop 1) ?_ name isProductive
  intro rule member _ _ _
  unfold names
  rw [← List.map_drop]
  exact List.mem_map_of_mem member

/-- All rules behind the root are productive if each of their names has a tree. -/
theorem isProductive_iff :
    grammar.isProductive = true ↔
      ∀ name ∈ grammar.names.drop 1, HasTree (grammar.rules.drop 1) name := by
  unfold isProductive
  rw [List.all_eq_true]
  refine forall₂_congr fun name _ => ?_
  rw [List.contains_iff_mem, mem_productive_iff]

/-- All rules behind the root are productive if each of them has a tree for its name. -/
theorem isProductive_iff_rules :
    grammar.isProductive = true ↔
      ∀ rule ∈ grammar.rules.drop 1, HasTree (grammar.rules.drop 1) rule.lhs := by
  rw [isProductive_iff]
  unfold names
  rw [← List.map_drop]
  exact List.forall_mem_map

/--
The productive names are exactly those with a derivation tree by the rules behind the root.
They are found in at most one sweep more than there are such rules with different names, and
whatever the order of these rules. All rules behind the root are productive exactly if each
of them has a name with a tree.
-/
theorem productive_exact (grammar : Grammar) :
    (∀ name, name ∈ grammar.productive ↔ HasTree (grammar.rules.drop 1) name) ∧
      grammar.settled.sweeps ≤ (grammar.names.drop 1).eraseDups.length + 1 ∧
      (∀ other : Grammar,
        (other.rules.drop 1).Perm (grammar.rules.drop 1) →
          ∀ name, name ∈ other.productive ↔ name ∈ grammar.productive) ∧
      (grammar.isProductive = true ↔
        ∀ rule ∈ grammar.rules.drop 1, HasTree (grammar.rules.drop 1) rule.lhs) := by
  refine ⟨fun _ => mem_productive_iff, ?_, ?_, ?_⟩
  · have sweeps := Productivity.sweeps_le (grammar.rules.drop 1) [] 0
    have found := grammar.productive_subperm.length_le
    unfold productive settled at found
    unfold settled
    simp only [List.length_nil] at sweeps
    omega
  · intro other reordered name
    rw [mem_productive_iff, mem_productive_iff]
    exact ⟨fun hasTree => hasTree.mono reordered.subset,
      fun hasTree => hasTree.mono reordered.symm.subset⟩
  · rw [isProductive_iff]
    unfold names
    rw [← List.map_drop]
    exact List.forall_mem_map

/-- A cycle without an exit and a name without a rule are not productive, in either order. -/
theorem productive_exact_of_cycle :
    let root : Rule := ⟨"root", [⟨[.terminal "a"]⟩]⟩
    let exit : Rule := ⟨"A", [⟨[.nonterminal "B"]⟩, ⟨[]⟩]⟩
    let cycle : Rule := ⟨"B", [⟨[.nonterminal "B", .nonterminal "A"]⟩, ⟨[.nonterminal "root"]⟩]⟩
    let grammar : Grammar := ⟨[root, exit, cycle]⟩
    let other : Grammar := ⟨[root, cycle, exit]⟩
    (other.rules.drop 1).Perm (grammar.rules.drop 1) ∧
      (∀ name, name ∈ other.productive ↔ name ∈ grammar.productive) ∧
      HasTree (grammar.rules.drop 1) "A" ∧
      ¬ HasTree (grammar.rules.drop 1) "B" := by
  intro root exit cycle grammar other
  obtain ⟨exact, -, reordered, -⟩ := productive_exact grammar
  have swapped : (other.rules.drop 1).Perm (grammar.rules.drop 1) := .swap _ _ _
  refine ⟨swapped, reordered other swapped, (exact "A").1 ?_, fun hasTree => ?_⟩
  · decide +kernel
  · exact absurd ((exact "B").2 hasTree) (by decide +kernel)

end Grammar

end GrammarCorpus
