import GrammarCorpus.Proofs.Files.Change

namespace GrammarCorpus

/-!
# Work that keeps an invariant

What holds of a workspace is carried through the steps that work is composed of, together
with a property of the values that the steps give. Work that may fail keeps the invariant
also when it fails; only a value needs to have the property.
-/

namespace Work

variable {α β ε δ : Type} {machine : Machine}
variable {holds : Workspace → Prop} {property : α → Prop} {conclusion : β → Prop}

/-- Work that keeps what holds of a workspace, and gives values with a property. -/
def Keeps
    (machine : Machine)
    (holds : Workspace → Prop)
    (property : α → Prop)
    (work : Work α) : Prop :=
  ∀ workspace, holds workspace →
    holds (work.perform machine workspace).2 ∧ property (work.perform machine workspace).1

/-- Work that keeps what holds of a workspace, and fails or gives a value with a property. -/
def KeepsOrFails
    (machine : Machine)
    (holds : Workspace → Prop)
    (property : α → Prop)
    (work : ExceptT ε Work α) : Prop :=
  Keeps machine holds (fun result => ∀ value, result = .ok value → property value) work.run

namespace Keeps

/-- A value changes nothing. -/
theorem pure {value : α} (given : property value) :
    Keeps machine holds property (Pure.pure value) :=
  fun _ before => ⟨before, given⟩

/-- The second step relies on what the first one gives. -/
theorem bind
    {work : Work α}
    {next : α → Work β}
    (first : Keeps machine holds property work)
    (second : ∀ value, property value → Keeps machine holds conclusion (next value)) :
    Keeps machine holds conclusion (work >>= next) := by
  intro workspace before
  obtain ⟨between, given⟩ := first workspace before
  rw [perform_bind]
  exact second _ given _ between

/-- What is told of the values may be more than what is asked for. -/
theorem mono
    {others : α → Prop}
    {work : Work α}
    (keeps : Keeps machine holds property work)
    (more : ∀ value, property value → others value) :
    Keeps machine holds others work :=
  fun workspace before => (keeps workspace before).imp_right (more _)

/-- Work that leaves a workspace of which the same holds. -/
theorem of_forall
    {work : Work α}
    (after : ∀ workspace, holds workspace → holds (work.perform machine workspace).2) :
    Keeps machine holds (fun _ => True) work :=
  fun workspace before => ⟨after workspace before, trivial⟩

/-- Work on all items of a list. -/
theorem forM
    {act : α → Work Unit}
    {items : List α}
    (each : ∀ item ∈ items, Keeps machine holds (fun _ => True) (act item)) :
    Keeps machine holds (fun _ => True) (items.forM act) := by
  induction items with
  | nil => exact pure trivial
  | cons item items inductionHypothesis =>
      refine bind (each item List.mem_cons_self) fun _ _ => ?_
      exact inductionHypothesis fun other member => each other (List.mem_cons_of_mem _ member)

/-- An engine is waited for, unless its launch is refused. -/
theorem start
    {role : Role}
    {launch : Launch}
    {path : Path}
    {given : Outcome → Prop}
    (launched : ∀ workspace, holds workspace → holds (workspace.record launch))
    (waits : Keeps machine holds given (await role path)) :
    Keeps machine holds
      (fun result => (∃ outcome, given outcome ∧ result = .ok outcome) ∨
        ∃ fault, machine.refuses launch = some fault ∧ result = .error fault)
      (Work.start role launch path) := by
  intro workspace before
  obtain ⟨after, isGiven⟩ := waits _ (launched workspace before)
  rcases perform_start_cases role launch path machine workspace with
    started | ⟨fault, refused, started | started⟩ <;> rw [started]
  · exact ⟨after, .inl ⟨_, isGiven, rfl⟩⟩
  · exact ⟨before, .inr ⟨fault, refused, rfl⟩⟩
  · exact ⟨after, .inr ⟨fault, refused, rfl⟩⟩

end Keeps

namespace KeepsOrFails

/-- A value changes nothing. -/
theorem pure {value : α} (given : property value) :
    KeepsOrFails machine holds property (Pure.pure value : ExceptT ε Work α) := by
  refine Keeps.pure ?_
  rintro _ ⟨⟩
  exact given

/-- A failure changes nothing. -/
theorem throw (failure : ε) :
    KeepsOrFails machine holds property (MonadExcept.throw failure : ExceptT ε Work α) :=
  Keeps.pure nofun

/-- The second step relies on what the first one gives, if that does not fail. -/
theorem bind
    {work : ExceptT ε Work α}
    {next : α → ExceptT ε Work β}
    (first : KeepsOrFails machine holds property work)
    (second : ∀ value, property value → KeepsOrFails machine holds conclusion (next value)) :
    KeepsOrFails machine holds conclusion (work >>= next) := by
  intro workspace before
  obtain ⟨between, given⟩ := first workspace before
  rw [perform_run_bind]
  cases ended : (work.run.perform machine workspace).1 with
  | error failure => exact ⟨between, nofun⟩
  | ok value => exact second value (given value ended) _ between

/-- Work that cannot fail. -/
theorem lift
    {work : Work α}
    (keeps : Keeps machine holds property work) :
    KeepsOrFails machine holds property (ExceptT.lift work : ExceptT ε Work α) := by
  intro workspace before
  obtain ⟨after, given⟩ := keeps workspace before
  rw [perform_run_lift]
  refine ⟨after, ?_⟩
  rintro _ ⟨⟩
  exact given

/-- Failures may get another name. -/
theorem adapt
    {rename : ε → δ}
    {work : ExceptT ε Work α}
    (keeps : KeepsOrFails machine holds property work) :
    KeepsOrFails machine holds property (ExceptT.adapt rename work) := by
  intro workspace before
  obtain ⟨after, given⟩ := keeps workspace before
  rw [perform_run_adapt]
  refine ⟨after, fun value ended => given value ?_⟩
  dsimp only at ended
  cases shape : (work.run.perform machine workspace).1 with
  | error failure =>
      rw [shape] at ended
      cases ended
  | ok other =>
      rw [shape] at ended
      cases ended
      rfl

/-- A failure is met by further work. -/
theorem tryCatch
    {work : ExceptT ε Work α}
    {handle : ε → ExceptT ε Work α}
    (first : KeepsOrFails machine holds property work)
    (second : ∀ failure, KeepsOrFails machine holds property (handle failure)) :
    KeepsOrFails machine holds property (MonadExcept.tryCatch work handle) := by
  intro workspace before
  obtain ⟨between, given⟩ := first workspace before
  rw [perform_run_tryCatch]
  cases ended : (work.run.perform machine workspace).1 with
  | error failure => exact second failure _ between
  | ok value =>
      refine ⟨between, ?_⟩
      rintro _ ⟨⟩
      exact given value ended

/-- What follows meets the result of work that may fail. -/
theorem run_bind
    {work : ExceptT ε Work α}
    {next : Except ε α → Work β}
    (first : KeepsOrFails machine holds property work)
    (failed : ∀ failure, Keeps machine holds conclusion (next (.error failure)))
    (second : ∀ value, property value → Keeps machine holds conclusion (next (.ok value))) :
    Keeps machine holds conclusion (work.run >>= next) := by
  refine Keeps.bind first ?_
  intro result given
  cases result with
  | error failure => exact failed failure
  | ok value => exact second value (given value rfl)

/-- Work that leaves a workspace of which the same holds. -/
theorem of_forall
    {work : ExceptT ε Work α}
    (after : ∀ workspace, holds workspace → holds (work.run.perform machine workspace).2) :
    KeepsOrFails machine holds (fun _ => True) work :=
  fun workspace before => ⟨after workspace before, fun _ _ => trivial⟩

/-- Work on all items of a list, up to the first that fails. -/
theorem forM
    {act : α → ExceptT ε Work Unit}
    {items : List α}
    (each : ∀ item ∈ items, KeepsOrFails machine holds (fun _ => True) (act item)) :
    KeepsOrFails machine holds (fun _ => True) (items.forM act) := by
  induction items with
  | nil => exact pure trivial
  | cons item items inductionHypothesis =>
      refine bind (each item List.mem_cons_self) fun _ _ => ?_
      exact inductionHypothesis fun other member => each other (List.mem_cons_of_mem _ member)

end KeepsOrFails

end Work

end GrammarCorpus
