import GrammarCorpus.Frontier
import Mathlib.Data.List.Nodup

namespace GrammarCorpus

/-!
# Meeting names at a frontier

A search meets the names that a rule mentions one after another. All of them together
have one effect: the new ones among them wait in the order of their first mention, and
none of them is unseen any more. So no name ever waits twice.
-/

/-- Without its later repetitions a list has every item once. -/
theorem nodup_eraseDups
    {α : Type}
    [BEq α]
    [LawfulBEq α]
    (items : List α) :
    items.eraseDups.Nodup := by
  match items with
  | [] => simp
  | item :: rest =>
      rw [List.eraseDups_cons, List.nodup_cons]
      refine ⟨?_, nodup_eraseDups _⟩
      simp [List.mem_eraseDups]
termination_by items.length
decreasing_by
  exact Nat.lt_succ_of_le (List.length_filter_le _ _)

namespace Frontier

/-- The names that are new to a frontier, each once, in the order of first mention. -/
def fresh (names unseen : List String) : List String :=
  (names.filter (· ∈ unseen)).eraseDups

/-- New names are mentioned and unseen. -/
theorem mem_fresh {name : String} {names unseen : List String} :
    name ∈ fresh names unseen ↔ name ∈ names ∧ name ∈ unseen := by
  simp [fresh, List.mem_eraseDups]

/-- No new name is counted twice. -/
theorem nodup_fresh (names unseen : List String) : (fresh names unseen).Nodup :=
  nodup_eraseDups _

/-- A forgotten name is not unseen, and all others are as before. -/
theorem mem_forget {name forgotten : String} {unseen : List String} :
    name ∈ forget forgotten unseen ↔ name ∈ unseen ∧ name ≠ forgotten := by
  simp [forget]

/-- The first of several names, if it is unseen, is the first new one. -/
theorem fresh_cons_of_mem
    {name : String}
    {names unseen : List String}
    (member : name ∈ unseen) :
    fresh (name :: names) unseen = name :: fresh names (forget name unseen) := by
  have kept :
      (names.filter (· ∈ unseen)).filter (fun other => !other == name) =
        names.filter (· ∈ forget name unseen) := by
    rw [List.filter_filter]
    apply List.filter_congr
    intro other _
    by_cases same : other = name <;> simp [mem_forget, same]
  unfold fresh
  rw [List.filter_cons_of_pos (by simpa using member), List.eraseDups_cons, kept]

/-- A name that is not unseen is not new. -/
theorem fresh_cons_of_not_mem
    {name : String}
    {names unseen : List String}
    (seen : name ∉ unseen) :
    fresh (name :: names) unseen = fresh names unseen := by
  unfold fresh
  rw [List.filter_cons_of_neg (by simpa using seen)]

/-- The effect of all names of a rule on a frontier. -/
theorem foldl_enqueue
    (names : List String)
    (frontier : Frontier) :
    names.foldl enqueue frontier =
      { waiting := frontier.waiting ++ fresh names frontier.unseen
        unseen := frontier.unseen.filter (· ∉ names) } := by
  induction names generalizing frontier with
  | nil => simp [fresh]
  | cons name names inductionHypothesis =>
      rw [List.foldl_cons, inductionHypothesis]
      by_cases member : name ∈ frontier.unseen
      · rw [fresh_cons_of_mem member]
        simp only [enqueue, if_pos member, List.append_assoc, List.cons_append,
          List.nil_append, mk.injEq, true_and]
        rw [forget, List.filter_filter]
        apply List.filter_congr
        intro other _
        simp [Bool.and_comm]
      · rw [fresh_cons_of_not_mem member]
        simp only [enqueue, if_neg member, mk.injEq, true_and]
        apply List.filter_congr
        intro other unseen
        have different : other ≠ name := fun same => member (same ▸ unseen)
        simp [different]

/-- A name that has been waiting goes on waiting. -/
theorem waits_of_waits
    {name : String}
    {frontier : Frontier}
    (names : List String)
    (waits : name ∈ frontier.waiting) :
    name ∈ (names.foldl enqueue frontier).waiting := by
  rw [foldl_enqueue]
  exact List.mem_append_left _ waits

/-- An unseen name waits once it is met. -/
theorem waits_of_met
    {name : String}
    {names : List String}
    {frontier : Frontier}
    (met : name ∈ names)
    (unseen : name ∈ frontier.unseen) :
    name ∈ (names.foldl enqueue frontier).waiting := by
  rw [foldl_enqueue]
  exact List.mem_append_right _ (mem_fresh.2 ⟨met, unseen⟩)

/-- A name that waits after others are met has been waiting, or is one of them. -/
theorem waiting_or_met
    {name : String}
    {names : List String}
    {frontier : Frontier}
    (waits : name ∈ (names.foldl enqueue frontier).waiting) :
    name ∈ frontier.waiting ∨ name ∈ names ∧ name ∈ frontier.unseen := by
  rw [foldl_enqueue] at waits
  exact (List.mem_append.1 waits).imp_right mem_fresh.1

/-- Unseen names are those that were unseen and are not met. -/
theorem mem_unseen_foldl_enqueue
    {name : String}
    {names : List String}
    {frontier : Frontier} :
    name ∈ (names.foldl enqueue frontier).unseen ↔
      name ∈ frontier.unseen ∧ name ∉ names := by
  rw [foldl_enqueue]
  simp

/-- No name waits twice, and no waiting name is unseen. -/
structure Clean (frontier : Frontier) : Prop where
  distinct : frontier.waiting.Nodup
  apart : ∀ name ∈ frontier.waiting, name ∉ frontier.unseen

namespace Clean

/-- Without its first waiting name a clean frontier is clean. -/
theorem rest
    {name : String}
    {waiting unseen : List String}
    (clean : Clean { waiting := name :: waiting, unseen }) :
    Clean { waiting, unseen } where
  distinct := (List.nodup_cons.1 clean.distinct).2
  apart other member := clean.apart other (List.mem_cons_of_mem _ member)

/-- Meeting names keeps a frontier clean. -/
theorem foldl_enqueue
    {frontier : Frontier}
    (clean : frontier.Clean)
    (names : List String) :
    (names.foldl enqueue frontier).Clean := by
  constructor
  · rw [Frontier.foldl_enqueue]
    refine List.Nodup.append clean.distinct (nodup_fresh _ _) ?_
    intro name waits isNew
    exact clean.apart name waits (mem_fresh.1 isNew).2
  · intro name waits unseen
    obtain ⟨unseenBefore, notMet⟩ := mem_unseen_foldl_enqueue.1 unseen
    rcases waiting_or_met waits with waitedBefore | ⟨met, -⟩
    · exact clean.apart name waitedBefore unseenBefore
    · exact notMet met

end Clean

end Frontier

end GrammarCorpus
