import GrammarCorpus.Proofs.Pool.Awaited
import GrammarCorpus.Proofs.Work

namespace GrammarCorpus

open List

/-!
# How a pool ends

A pool whose trials have settled outcomes ends in one of two ways, whatever turns it
is given. If a fatal message is awaited, the run fails, and with a failure that is
awaited. Otherwise the parent has every awaited result in the end, each exactly once.
-/

namespace Pool

variable {ε α : Type}

/--
Trials whose outcomes are settled by their numbers, as long as they are ready. A
trial that is ready stays so while turns are given, progress is told and other
trials are made.
-/
structure Steady
    (machine : Machine)
    (outcome : Int → Except ε (Option α))
    (Ready : Workspace → Int → Prop)
    (pick : Work Nat)
    (attempt : Int → Work (Except ε (Option α)))
    (progress : Int → Work Unit) : Prop where
  pickKeeps : ∀ {workspace trial},
    Ready workspace trial → Ready (pick.perform machine workspace).2 trial
  progressKeeps : ∀ {workspace trial} (done : Int),
    Ready workspace trial → Ready ((progress done).perform machine workspace).2 trial
  settled : ∀ {workspace trial},
    Ready workspace trial →
      ((attempt trial).perform machine workspace).1 = outcome trial
  attemptKeeps : ∀ {workspace trial other},
    Ready workspace trial → Ready workspace other → other ≠ trial →
      Ready ((attempt trial).perform machine workspace).2 other

/-- An ending that the awaited messages allow. -/
def Ends
    (isInterrupt : ε → Bool)
    (outcome : Int → Except ε (Option α))
    (lanes : List (Lane ε α))
    (harvest : Harvest α) :
    Except ε (Harvest α) → Prop
  | .ok final =>
      (∀ trial failure, .fatal trial failure ∉ awaited isInterrupt outcome lanes) ∧
        final.results ~
          harvest.results ++ (awaited isInterrupt outcome lanes).filterMap Message.result?
  | .error failure =>
      ∃ trial, .fatal trial failure ∈ awaited isInterrupt outcome lanes

namespace Ends

variable {isInterrupt : ε → Bool} {outcome : Int → Except ε (Option α)}
variable {lanes after : List (Lane ε α)} {harvest : Harvest α}
variable {ending : Except ε (Harvest α)}

/-- Where nothing is awaited, the harvest is complete. -/
theorem of_nothing_awaited
    (nothing : awaited isInterrupt outcome lanes = []) :
    Ends isInterrupt outcome lanes harvest (.ok harvest) := by
  simp [Ends, nothing]

/-- A turn that keeps the awaited messages keeps the endings. -/
theorem of_perm
    (same : awaited isInterrupt outcome lanes ~ awaited isInterrupt outcome after)
    (ends : Ends isInterrupt outcome after harvest ending) :
    Ends isInterrupt outcome lanes harvest ending := by
  cases ending with
  | error failure =>
      obtain ⟨trial, member⟩ := ends
      exact ⟨trial, same.mem_iff.2 member⟩
  | ok final =>
      obtain ⟨noFatal, results⟩ := ends
      refine ⟨fun trial failure member => noFatal trial failure (same.mem_iff.1 member), ?_⟩
      exact results.trans ((same.symm.filterMap _).append_left _)

/-- A message that is taken and is not fatal adds its result to the harvest. -/
theorem of_take
    {message : Message ε α}
    {added : Harvest α}
    (same :
      awaited isInterrupt outcome lanes ~
        message :: awaited isInterrupt outcome after)
    (harmless : ∀ trial failure, message ≠ .fatal trial failure)
    (grown : added.results = harvest.results ++ message.result?.toList)
    (ends : Ends isInterrupt outcome after added ending) :
    Ends isInterrupt outcome lanes harvest ending := by
  cases ending with
  | error failure =>
      obtain ⟨trial, member⟩ := ends
      exact ⟨trial, same.mem_iff.2 (List.mem_cons_of_mem _ member)⟩
  | ok final =>
      obtain ⟨noFatal, results⟩ := ends
      constructor
      · intro trial failure member
        rcases List.mem_cons.1 (same.mem_iff.1 member) with taken | later
        · exact harmless trial failure taken.symm
        · exact noFatal trial failure later
      · have split :
            (message :: awaited isInterrupt outcome after).filterMap Message.result? =
              message.result?.toList ++
                (awaited isInterrupt outcome after).filterMap Message.result? := by
          cases report : message.result? <;> simp [report]
        calc
          final.results
            ~ added.results ++
                (awaited isInterrupt outcome after).filterMap Message.result? := results
          _ = harvest.results ++
                (message :: awaited isInterrupt outcome after).filterMap
                  Message.result? := by
            rw [grown, split, List.append_assoc]
          _ ~ harvest.results ++
                (awaited isInterrupt outcome lanes).filterMap Message.result? :=
            (same.symm.filterMap _).append_left _

/-- A fatal message that is taken was awaited. -/
theorem of_fatal
    {trial : Int}
    {failure : ε}
    (same :
      awaited isInterrupt outcome lanes ~
        .fatal trial failure :: awaited isInterrupt outcome after) :
    Ends isInterrupt outcome lanes harvest (.error failure) :=
  ⟨trial, same.mem_iff.2 List.mem_cons_self⟩

end Ends

/-- A list that can be put into another one repeats nothing if that one does not. -/
theorem nodup_of_subperm
    {β : Type}
    {left right : List β}
    (inside : left <+~ right)
    (distinct : right.Nodup) :
    left.Nodup := by
  obtain ⟨arranged, same, shorter⟩ := inside
  exact same.nodup_iff.1 (shorter.nodup distinct)

/--
However the turns are given, a pool ends as the messages allow that are awaited at
its start.
-/
theorem run_ends
    {machine : Machine}
    {outcome : Int → Except ε (Option α)}
    {Ready : Workspace → Int → Prop}
    {pick : Work Nat}
    {attempt : Int → Work (Except ε (Option α))}
    {progress : Int → Work Unit}
    (isInterrupt : ε → Bool)
    (steady : Steady machine outcome Ready pick attempt progress)
    (lanes : List (Lane ε α))
    (harvest : Harvest α)
    (workspace : Workspace)
    (distinct : (outstanding lanes).Nodup)
    (ready : ∀ trial ∈ outstanding lanes, Ready workspace trial) :
    Ends isInterrupt outcome lanes harvest
      ((run isInterrupt pick attempt progress lanes harvest).perform
        machine workspace).1 := by
  -- The weight of the lanes bounds the number of turns, as it does in `run` itself.
  induction bound : weight lanes using Nat.strongRecOn
    generalizing lanes harvest workspace with
  | _ bound inductionHypothesis =>
      subst bound
      have readyThen : ∀ trial ∈ outstanding lanes,
          Ready (pick.perform machine workspace).2 trial :=
        fun trial member => steady.pickKeeps (ready trial member)
      unfold run
      rw [Work.perform_bind]
      split
      · rename_i ended
        exact .of_nothing_awaited (keeps_of_turn outcome ended)
      · rename_i trial found after chosen
        obtain ⟨same, fewer⟩ := keeps_of_turn outcome chosen
        have ends := inductionHypothesis _ (lighter_of_turn chosen) after
          (harvest.add trial found) _
          (nodup_of_subperm fewer distinct)
          (fun other member =>
            steady.progressKeeps (harvest.add trial found).done
              (readyThen other (fewer.subset member)))
          rfl
        exact ends.of_take same (by simp) rfl
      · rename_i trial failure after chosen
        exact .of_fatal (keeps_of_turn outcome chosen).1
      · rename_i worker after chosen
        obtain ⟨same, fewer⟩ := keeps_of_turn outcome chosen
        have ends := inductionHypothesis _ (lighter_of_turn chosen) after harvest _
          (nodup_of_subperm fewer distinct)
          (fun other member => readyThen other (fewer.subset member))
          rfl
        exact ends.of_take same (by simp) (by simp [Message.result?])
      · rename_i after chosen
        obtain ⟨same, fewer⟩ := keeps_of_turn outcome chosen
        have ends := inductionHypothesis _ (lighter_of_turn chosen) after harvest _
          (nodup_of_subperm fewer distinct)
          (fun other member => readyThen other (fewer.subset member))
          rfl
        exact ends.of_perm same
      · rename_i trial resume chosen
        obtain ⟨same, fewer⟩ := keeps_of_turn outcome chosen
        have here : Ready (pick.perform machine workspace).2 trial :=
          readyThen trial (fewer.subset List.mem_cons_self)
        obtain ⟨notAgain, left⟩ := List.nodup_cons.1 (nodup_of_subperm fewer distinct)
        rw [Work.perform_bind, steady.settled here]
        refine .of_perm same ?_
        refine inductionHypothesis _ (lighter_of_turn chosen _) _ _ _ left ?_ rfl
        intro other member
        refine steady.attemptKeeps here
          (readyThen other (fewer.subset (List.mem_cons_of_mem _ member))) ?_
        rintro rfl
        exact notAgain member

end Pool

end GrammarCorpus
