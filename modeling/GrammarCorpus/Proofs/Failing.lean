import GrammarCorpus.Proofs.Keeping

namespace GrammarCorpus

/-!
# Work that fails in known ways

What work may fail with is carried through the steps that it is composed of, together with a
property of the values that the steps give. Nothing is assumed about the workspace and nothing
is said about it: whatever the tree is and whichever calls meet a fault, the work ends in one of
the ways that are told.
-/

namespace Work

variable {α β ε δ : Type} {machine : Machine}
variable {property : α → Prop} {conclusion : β → Prop}
variable {allowed : ε → Prop} {remaining : δ → Prop}

/-- A value with a property, or a failure that is allowed. -/
def Meets (property : α → Prop) (allowed : ε → Prop) : Except ε α → Prop
  | .ok value => property value
  | .error failure => allowed failure

namespace Meets

variable {result : Except ε α}

/-- More failures may be allowed. -/
theorem mono
    {others : ε → Prop}
    (met : Meets property allowed result)
    (more : ∀ failure, allowed failure → others failure) :
    Meets property others result := by
  cases result with
  | error failure => exact more failure met
  | ok value => exact met

/-- Failures may get another name under which they are allowed. -/
theorem mapError
    {rename : ε → δ}
    (met : Meets property allowed result)
    (renamed : ∀ failure, allowed failure → remaining (rename failure)) :
    Meets property remaining (result.mapError rename) := by
  cases result with
  | error failure => exact renamed failure met
  | ok value => exact met

end Meets

/-- Work that gives a value with a property, or fails in one of the ways that are allowed. -/
def GivesOrFails
    (machine : Machine)
    (property : α → Prop)
    (allowed : ε → Prop)
    (work : ExceptT ε Work α) : Prop :=
  Keeps machine (fun _ => True) (Meets property allowed) work.run

/-- Work that gives any value, or fails in one of the ways that are allowed. -/
abbrev FailsOnly (machine : Machine) (allowed : ε → Prop) (work : ExceptT ε Work α) : Prop :=
  GivesOrFails machine (fun _ => True) allowed work

/-- Nothing is said of any work. -/
theorem Keeps.any (work : Work α) : Keeps machine (fun _ => True) (fun _ => True) work :=
  fun _ _ => ⟨trivial, trivial⟩

namespace GivesOrFails

/-- A value is no failure. -/
theorem pure {value : α} (given : property value) :
    GivesOrFails machine property allowed (Pure.pure value : ExceptT ε Work α) :=
  Keeps.pure given

/-- A failure that is allowed. -/
theorem throw {failure : ε} (isAllowed : allowed failure) :
    GivesOrFails machine property allowed (MonadExcept.throw failure : ExceptT ε Work α) :=
  Keeps.pure isAllowed

/-- What follows meets the result of work that may fail. -/
theorem run_bind
    {work : ExceptT ε Work α}
    {next : Except ε α → Work β}
    (first : GivesOrFails machine property allowed work)
    (failed : ∀ failure, allowed failure →
      Keeps machine (fun _ => True) conclusion (next (.error failure)))
    (second : ∀ value, property value →
      Keeps machine (fun _ => True) conclusion (next (.ok value))) :
    Keeps machine (fun _ => True) conclusion (work.run >>= next) := by
  refine Keeps.bind first fun result met => ?_
  cases result with
  | error failure => exact failed failure met
  | ok value => exact second value met

/-- The second step relies on what the first one gives, if that does not fail. -/
theorem bind
    {work : ExceptT ε Work α}
    {next : α → ExceptT ε Work β}
    (first : GivesOrFails machine property allowed work)
    (second : ∀ value, property value → GivesOrFails machine conclusion allowed (next value)) :
    GivesOrFails machine conclusion allowed (work >>= next) := by
  change Keeps machine _ _ (work.run >>= ExceptT.bindCont next)
  exact first.run_bind (fun _ isAllowed => throw isAllowed) second

/-- Whatever the first step gives, the second one fails in the same ways. -/
theorem andThen
    {work : ExceptT ε Work α}
    {next : α → ExceptT ε Work β}
    (first : FailsOnly machine allowed work)
    (second : ∀ value, GivesOrFails machine conclusion allowed (next value)) :
    GivesOrFails machine conclusion allowed (work >>= next) :=
  first.bind fun value _ => second value

/-- Work that cannot fail. -/
theorem lift {work : Work α} (keeps : Keeps machine (fun _ => True) property work) :
    GivesOrFails machine property allowed (ExceptT.lift work : ExceptT ε Work α) :=
  fun workspace _ => ⟨trivial, (keeps workspace trivial).2⟩

/-- Failures under another name are allowed if they are under their own. -/
theorem adapt
    {rename : ε → δ}
    {work : ExceptT ε Work α}
    (fails : GivesOrFails machine property allowed work)
    (renamed : ∀ failure, allowed failure → remaining (rename failure)) :
    GivesOrFails machine property remaining (ExceptT.adapt rename work) := by
  intro workspace _
  rw [perform_run_adapt]
  exact ⟨trivial, (fails workspace trivial).2.mapError renamed⟩

/-- Failures that are met are left to what meets them. -/
theorem tryCatch
    {work : ExceptT ε Work α}
    {handle : ε → ExceptT ε Work α}
    {others : ε → Prop}
    (first : GivesOrFails machine property allowed work)
    (second : ∀ failure, allowed failure → GivesOrFails machine property others (handle failure)) :
    GivesOrFails machine property others (MonadExcept.tryCatch work handle) := by
  intro workspace _
  obtain ⟨-, met⟩ := first workspace trivial
  rw [perform_run_tryCatch]
  cases ended : (work.run.perform machine workspace).1 with
  | error failure =>
      rw [ended] at met
      exact second failure met _ trivial
  | ok value =>
      rw [ended] at met
      exact ⟨trivial, met⟩

/-- What is told may be more than what is asked for. -/
theorem mono
    {others : ε → Prop}
    {work : ExceptT ε Work α}
    (fails : GivesOrFails machine property allowed work)
    (more : ∀ failure, allowed failure → others failure) :
    GivesOrFails machine property others work :=
  fun workspace _ => ⟨trivial, (fails workspace trivial).2.mono more⟩

/-- Work on all items of a list fails like the work on one of them. -/
theorem forM
    {act : α → ExceptT ε Work Unit}
    {items : List α}
    (each : ∀ item ∈ items, FailsOnly machine allowed (act item)) :
    FailsOnly machine allowed (items.forM act) := by
  induction items with
  | nil => exact pure trivial
  | cons item items inductionHypothesis =>
      refine andThen (each item List.mem_cons_self) fun _ => ?_
      exact inductionHypothesis fun other member => each other (List.mem_cons_of_mem _ member)

/-- Computing for all roles fails like computing for one of them. -/
theorem build
    {make : Role → ExceptT ε Work α}
    (each : ∀ role, FailsOnly machine allowed (make role)) :
    FailsOnly machine allowed (PerRole.build make) := by
  refine andThen (each .strict) fun strict => andThen (each .relaxed) fun relaxed => ?_
  exact andThen (each .reference) fun reference => pure trivial

/-- Work that can only fail in ways that are ruled out gives a value. -/
theorem exists_ok
    {work : ExceptT ε Work α}
    (fails : GivesOrFails machine property (fun _ => False) work)
    (workspace : Workspace) :
    ∃ value, (work.run.perform machine workspace).1 = .ok value ∧ property value := by
  obtain ⟨-, met⟩ := fails workspace trivial
  cases ended : (work.run.perform machine workspace).1 with
  | error failure =>
      rw [ended] at met
      exact met.elim
  | ok value =>
      rw [ended] at met
      exact ⟨value, rfl, met⟩

end GivesOrFails

end Work

end GrammarCorpus
