import GrammarCorpus.Proofs.Search
import Mathlib.Logic.Relation

namespace GrammarCorpus

/-!
# Exploring a grammar in any order

The search from the root expands one waiting name after the other, and the names of a rule may
be met in an order that nobody knows, a new one at every step. What it has met is known all the
same: at each step all of it can be reached from the root, and every name that was met waits
still or has passed on what its rule mentions. So a search that comes to its end has met exactly
the names that can be reached in one or more steps. A name without a rule is one of them, and
it is none of the names behind the root; therefore to stop there, or to pass over it and go on,
makes no difference to the answer.

Every step takes one name away from those that wait or were not met, which bounds the number of
steps.
-/

namespace Grammar

/-- The first rule of a name mentions another name. -/
def Mentions (grammar : Grammar) (name other : String) : Prop :=
  ∃ rule, grammar.rule? name = some rule ∧ other ∈ rule.nonterminals

/-- A name can be reached from another one in one or more steps. -/
def Reaches (grammar : Grammar) : String → String → Prop :=
  Relation.TransGen grammar.Mentions

/-- The names that can be reached from the root are those of the rules behind it. -/
def ReachesItsRules (root : Rule) (others : List Rule) : Prop :=
  ∀ name, Reaches { rules := root :: others } root.lhs name ↔ name ∈ others.map Rule.lhs

/--
A step of a search: the latest waiting name is expanded, and what its rule mentions is met in
any order. A name that has no rule can be passed over.
-/
inductive Proceeds (grammar : Grammar) : Frontier → Frontier → Prop
  | expand
      {name : String}
      {waiting unseen names : List String}
      {rule : Rule}
      (isRule : grammar.rule? name = some rule)
      (order : names.Perm rule.nonterminals.eraseDups) :
      Proceeds grammar { waiting := name :: waiting, unseen }
        (names.foldl Frontier.push { waiting, unseen })
  | pass
      {name : String}
      {waiting unseen : List String}
      (undefined : grammar.rule? name = none) :
      Proceeds grammar { waiting := name :: waiting, unseen } { waiting, unseen }

/-- Steps of a search, one after the other, and how many there are. -/
inductive Explores (grammar : Grammar) : Frontier → Nat → Frontier → Prop
  | rest (frontier : Frontier) : Explores grammar frontier 0 frontier
  | step
      {first second last : Frontier}
      {steps : Nat}
      (proceeds : Proceeds grammar first second)
      (explores : Explores grammar second steps last) :
      Explores grammar first (steps + 1) last

/-- Where the search from the root begins. -/
def outset (grammar : Grammar) (root : Rule) : Frontier where
  waiting := [root.lhs]
  unseen := grammar.mentioned

/-- What a search answers from the names that it has not met. -/
def agrees (grammar : Grammar) (unmet : List String) : Bool :=
  Reachability.sameNames (Reachability.unreached grammar.mentioned unmet) (grammar.names.drop 1)

/-- What is known of a frontier at each step of a search. -/
structure Tracks (grammar : Grammar) (root : String) (frontier : Frontier) : Prop where
  /-- Whatever waits can be reached, or is the root. -/
  waiting : ∀ name ∈ frontier.waiting, name = root ∨ grammar.Reaches root name
  /-- Whatever has been met can be reached. -/
  met : ∀ name ∈ grammar.mentioned, name ∉ frontier.unseen → grammar.Reaches root name
  /-- Whatever has been met waits, or what its rule mentions has been met. -/
  settled : ∀ name, name = root ∨ name ∈ grammar.mentioned ∧ name ∉ frontier.unseen →
    name ∈ frontier.waiting ∨ ∀ other, grammar.Mentions name other → other ∉ frontier.unseen

variable {grammar : Grammar} {root name : String} {frontier next last : Frontier} {steps : Nat}

/-- What a rule mentions is mentioned in the grammar. -/
theorem Mentions.mem_mentioned (mentions : grammar.Mentions root name) :
    name ∈ grammar.mentioned := by
  obtain ⟨rule, isRule, mentioned⟩ := mentions
  exact Grammar.mem_mentioned.2 ⟨rule, List.mem_of_find?_eq_some isRule, mentioned⟩

/-- What can be reached is mentioned in the grammar. -/
theorem Reaches.mem_mentioned (reaches : grammar.Reaches root name) :
    name ∈ grammar.mentioned := by
  cases reaches with
  | single mentions => exact mentions.mem_mentioned
  | tail _ mentions => exact mentions.mem_mentioned

/-- What a name mentions that is the root or can be reached, can be reached. -/
theorem Mentions.reaches
    {other : String}
    (mentions : grammar.Mentions name other)
    (reached : name = root ∨ grammar.Reaches root name) :
    grammar.Reaches root other := by
  rcases reached with rfl | reaches
  · exact .single mentions
  · exact .tail reaches mentions

namespace Tracks

/-- At the outset only the root waits, and nothing has been met. -/
theorem outset (root : Rule) : Tracks grammar root.lhs (grammar.outset root) where
  waiting name waits := .inl (List.mem_singleton.1 waits)
  met name mentioned unmet := absurd mentioned unmet
  settled name met := by
    rcases met with rfl | ⟨mentioned, unmet⟩
    · exact .inl List.mem_cons_self
    · exact absurd mentioned unmet

/-- A step keeps what is known. -/
theorem proceed
    (tracks : Tracks grammar root frontier)
    (proceeds : Proceeds grammar frontier next) :
    Tracks grammar root next := by
  cases proceeds with
  | @expand first waiting unseen names rule isRule order =>
      have isName : ∀ {other}, other ∈ names ↔ grammar.Mentions first other := by
        intro other
        rw [order.mem_iff, List.mem_eraseDups]
        refine ⟨fun mentioned => ⟨rule, isRule, mentioned⟩, ?_⟩
        rintro ⟨same, isSame, mentioned⟩
        cases isSame.symm.trans isRule
        exact mentioned
      have firstReached := tracks.waiting first List.mem_cons_self
      refine ⟨fun name waits => ?_, fun name mentioned seen => ?_, fun name met => ?_⟩
      · rcases Frontier.mem_waiting_foldl_push.1 waits with ⟨isNew, -⟩ | waited
        · exact .inr ((isName.1 isNew).reaches firstReached)
        · exact tracks.waiting name (List.mem_cons_of_mem _ waited)
      · rw [Frontier.mem_unseen_foldl_push, not_and_not_right] at seen
        by_cases isUnseen : name ∈ unseen
        · exact (isName.1 (seen isUnseen)).reaches firstReached
        · exact tracks.met name mentioned isUnseen
      · -- The name is new, or was met before; then only the expanded name stops waiting.
        by_cases isNew : name ∈ names ∧ name ∈ unseen
        · exact .inl (Frontier.mem_waiting_foldl_push.2 (.inl isNew))
        have metBefore : name = root ∨ name ∈ grammar.mentioned ∧ name ∉ unseen := by
          refine met.imp_right fun ⟨mentioned, seen⟩ => ⟨mentioned, fun isUnseen => ?_⟩
          rw [Frontier.mem_unseen_foldl_push, not_and_not_right] at seen
          exact isNew ⟨seen isUnseen, isUnseen⟩
        by_cases isFirst : name = first
        · refine .inr fun other mentions isUnseen => ?_
          exact (Frontier.mem_unseen_foldl_push.1 isUnseen).2
            (isName.2 (isFirst ▸ mentions))
        rcases tracks.settled name metBefore with waits | passedOn
        · exact .inl (Frontier.mem_waiting_foldl_push.2
            (.inr ((List.mem_cons.1 waits).resolve_left isFirst)))
        · exact .inr fun other mentions isUnseen =>
            passedOn other mentions (Frontier.mem_unseen_foldl_push.1 isUnseen).1
  | @pass first waiting unseen undefined =>
      refine ⟨fun name waits => tracks.waiting name (List.mem_cons_of_mem _ waits),
        tracks.met, fun name met => ?_⟩
      rcases tracks.settled name met with waits | passedOn
      · rcases List.mem_cons.1 waits with rfl | waited
        · refine .inr ?_
          rintro other ⟨rule, isRule, -⟩
          cases isRule.symm.trans undefined
        · exact .inl waited
      · exact .inr passedOn

/-- All steps of a search keep what is known. -/
theorem explore
    (tracks : Tracks grammar root frontier)
    (explores : Explores grammar frontier steps last) :
    Tracks grammar root last := by
  induction explores with
  | rest => exact tracks
  | step proceeds _ inductionHypothesis => exact inductionHypothesis (tracks.proceed proceeds)

/-- When nothing waits any more, exactly what can be reached has been met. -/
theorem reaches_iff
    (tracks : Tracks grammar root frontier)
    (ended : frontier.waiting = []) :
    grammar.Reaches root name ↔ name ∈ grammar.mentioned ∧ name ∉ frontier.unseen := by
  have passesOn : ∀ {first other}, first = root ∨ first ∈ grammar.mentioned ∧
      first ∉ frontier.unseen → grammar.Mentions first other → other ∉ frontier.unseen := by
    intro first other met
    refine (tracks.settled first met).resolve_left ?_ other
    rw [ended]
    exact List.not_mem_nil
  refine ⟨fun reaches => ⟨reaches.mem_mentioned, ?_⟩, fun ⟨mentioned, met⟩ =>
    tracks.met name mentioned met⟩
  induction reaches with
  | single mentions => exact passesOn (.inl rfl) mentions
  | tail reaches mentions inductionHypothesis =>
      exact passesOn (.inr ⟨Reaches.mem_mentioned reaches, inductionHypothesis⟩) mentions

end Tracks

/-- A step takes one name away. -/
theorem Proceeds.size_lt (proceeds : Proceeds grammar frontier next) :
    next.size < frontier.size := by
  cases proceeds with
  | expand isRule order =>
      refine Nat.lt_of_le_of_lt (Frontier.size_foldl_push_le _ _) ?_
      simp [Frontier.size]
  | pass undefined => simp [Frontier.size]

/-- There are no more steps than names that wait or have not been met. -/
theorem Explores.steps_le (explores : Explores grammar frontier steps last) :
    steps + last.size ≤ frontier.size := by
  induction explores with
  | rest => simp
  | step proceeds _ inductionHypothesis =>
      have fewer := proceeds.size_lt
      omega

/-- The search is a way to explore: to the end, or up to the first name that has no rule. -/
theorem unmet?_explores
    {arrange : List String → List String}
    (arranges : Arranges arrange)
    (frontier : Frontier) :
    ∃ steps last, Explores grammar frontier steps last ∧
      (last.waiting = [] ∧ grammar.unmet? arrange frontier = some last.unseen ∨
        ∃ name waiting, last.waiting = name :: waiting ∧ grammar.rule? name = none ∧
          grammar.unmet? arrange frontier = none) := by
  induction frontier using unmet?.induct grammar arrange with
  | case1 unseen => exact ⟨0, _, .rest _, .inl ⟨rfl, by rw [unmet?]⟩⟩
  | case2 name waiting unseen undefined =>
      exact ⟨0, _, .rest _, .inr ⟨name, waiting, rfl, undefined, by rw [unmet?, undefined]⟩⟩
  | case3 name waiting unseen rule isRule names inductionHypothesis =>
      obtain ⟨steps, last, explores, ends⟩ := inductionHypothesis
      refine ⟨steps + 1, last, .step (.expand isRule (arranges _)) explores, ?_⟩
      rwa [unmet?, isRule]

variable {first : Rule} {others : List Rule}

/-- A search that has come to its end answers whether the names are those of the rules. -/
theorem agrees_iff
    (tracks : Tracks { rules := first :: others } first.lhs frontier)
    (ended : frontier.waiting = []) :
    agrees { rules := first :: others } frontier.unseen = true ↔
      ReachesItsRules first others := by
  have names : names { rules := first :: others } = first.lhs :: others.map Rule.lhs := rfl
  rw [agrees, sameNames_iff, names, List.drop_succ_cons, List.drop_zero]
  unfold ReachesItsRules
  simp only [tracks.reaches_iff ended, ← mem_unreached]
  exact ⟨fun ⟨there, back⟩ name => ⟨@there name, @back name⟩,
    fun same => ⟨fun name => (same name).1, fun name => (same name).2⟩⟩

/-- Where a name without a rule waits, the names that can be reached are not those of the rules. -/
theorem not_reachesItsRules
    (tracks : Tracks { rules := first :: others } first.lhs frontier)
    (waits : name ∈ frontier.waiting)
    (undefined : rule? { rules := first :: others } name = none) :
    ¬ ReachesItsRules first others := by
  intro same
  have noRule : ∀ rule ∈ first :: others, rule.lhs ≠ name := by
    simpa [rule?] using List.find?_eq_none.1 undefined
  rcases tracks.waiting name waits with rfl | reaches
  · exact noRule first List.mem_cons_self rfl
  · obtain ⟨rule, isOther, named⟩ := List.mem_map.1 ((same name).1 reaches)
    exact noRule rule (List.mem_cons_of_mem _ isOther) named

/-- The answer is that of the names which are left, if the search comes to its end. -/
theorem reachesItsRules?_eq
    (root : Rule)
    (others : List Rule)
    (arrange : List String → List String) :
    let grammar : Grammar := { rules := root :: others }
    grammar.reachesItsRules? arrange =
      some (((grammar.unmet? arrange (grammar.outset root)).map grammar.agrees).getD false) := by
  intro grammar
  have isRoot : grammar.root? = some root := rfl
  rw [reachesItsRules?, isRoot, Option.map_some, outset]
  cases grammar.unmet? arrange { waiting := [root.lhs], unseen := grammar.mentioned } <;> rfl

/--
The search from the root ends and says whether the names that can be reached in one or more
steps are those of the rules behind the root, in whatever order it meets the names of a rule.
That holds of every search: it takes at most one step for each name that is mentioned and one
for the root; when nothing waits any more, the names that it has met give the right answer, also
if it has passed over names that have no rule; and where such a name waits, the answer is no, so
that a search can stop there.
-/
theorem reachesItsRules_exact (root : Rule) (others : List Rule) :
    let grammar : Grammar := { rules := root :: others }
    (∀ arrange, Arranges arrange →
      ∃ verdict, grammar.reachesItsRules? arrange = some verdict ∧
        (verdict = true ↔ ReachesItsRules root others)) ∧
    ∀ steps last, Explores grammar (grammar.outset root) steps last →
      steps ≤ grammar.mentioned.length + 1 ∧
        (last.waiting = [] → (grammar.agrees last.unseen = true ↔ ReachesItsRules root others)) ∧
        ∀ name ∈ last.waiting, grammar.rule? name = none → ¬ ReachesItsRules root others := by
  intro grammar
  have tracked : ∀ {steps last}, Explores grammar (grammar.outset root) steps last →
      Tracks grammar root.lhs last := fun explores => (Tracks.outset root).explore explores
  constructor
  · intro arrange arranges
    obtain ⟨steps, last, explores, ends⟩ := unmet?_explores arranges (grammar.outset root)
    refine ⟨_, reachesItsRules?_eq root others arrange, ?_⟩
    rcases ends with ⟨ended, found⟩ | ⟨name, waiting, waits, undefined, stopped⟩
    · rw [found]
      exact agrees_iff (tracked explores) ended
    · rw [stopped]
      have refuted := not_reachesItsRules (tracked explores)
        (waits ▸ List.mem_cons_self) undefined
      exact ⟨fun accepted => absurd accepted Bool.false_ne_true, fun same => absurd same refuted⟩
  · intro steps last explores
    refine ⟨?_, agrees_iff (tracked explores), fun name waits undefined =>
      not_reachesItsRules (tracked explores) waits undefined⟩
    have bound := explores.steps_le
    have start : (grammar.outset root).size = 1 + grammar.mentioned.length := rfl
    omega

/--
Two rules for one name, of which the first speaks, and names that mention themselves and each
other. With a name that has no rule the answer turns, and a search that passes it over agrees.
-/
theorem reachesItsRules_exact_of_cycle :
    let root : Rule := ⟨"root", [⟨[.nonterminal "A", .nonterminal "B"]⟩]⟩
    let cycle : List Rule := [
      ⟨"B", [⟨[.nonterminal "A"]⟩, ⟨[]⟩]⟩,
      ⟨"A", [⟨[.nonterminal "A", .nonterminal "B"]⟩]⟩,
      ⟨"A", [⟨[.nonterminal "C"]⟩]⟩]
    let broken : List Rule := [
      ⟨"A", [⟨[.nonterminal "C"]⟩]⟩,
      ⟨"B", [⟨[]⟩]⟩]
    Arranges List.reverse ∧
      reachesItsRules? { rules := root :: cycle } List.reverse = some true ∧
      ReachesItsRules root cycle ∧
      reachesItsRules? { rules := root :: broken } List.reverse = some false ∧
      ∃ last,
        Explores { rules := root :: broken } (outset { rules := root :: broken } root) 4 last ∧
        last.waiting = [] ∧ agrees { rules := root :: broken } last.unseen = false := by
  intro root cycle broken
  have arranges : Arranges List.reverse := fun names => List.reverse_perm names
  have accepted : reachesItsRules? { rules := root :: cycle } List.reverse = some true := by
    decide +kernel
  have refused : reachesItsRules? { rules := root :: broken } List.reverse = some false := by
    decide +kernel
  have passes : Explores { rules := root :: broken } (outset { rules := root :: broken } root) 4
      { waiting := [], unseen := [] } :=
    .step (@Proceeds.expand _ _ _ _ ["B", "A"] _ rfl (.swap _ _ _))
      (.step (@Proceeds.expand _ _ _ _ ["C"] _ rfl (.refl _))
        (.step (.pass rfl) (.step (@Proceeds.expand _ _ _ _ [] _ rfl (.refl _)) (.rest _))))
  obtain ⟨ends, -⟩ := reachesItsRules_exact root cycle
  obtain ⟨verdict, answers, isRight⟩ := ends _ arranges
  cases answers.symm.trans accepted
  obtain ⟨endsBroken, explores⟩ := reachesItsRules_exact root broken
  obtain ⟨brokenVerdict, answersBroken, isRightBroken⟩ := endsBroken _ arranges
  cases answersBroken.symm.trans refused
  refine ⟨arranges, accepted, isRight.1 rfl, refused, _, passes, rfl, ?_⟩
  rw [← Bool.not_eq_true]
  exact fun agreed => absurd (isRightBroken.2 (((explores _ _ passes).2.1 rfl).1 agreed))
    Bool.false_ne_true

end Grammar

end GrammarCorpus
