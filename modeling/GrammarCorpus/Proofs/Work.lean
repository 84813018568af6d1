import GrammarCorpus.Corpus.Trial

namespace GrammarCorpus

/-!
# Performing work

Work is performed on a machine and in a workspace; it gives a value and leaves a
workspace. `Work.perform` is the one view through which proofs look at work, and
the equations here carry it through the steps that work is composed of.
-/

namespace Work

variable {ε α β : Type}

/-- The value that work gives on a machine, and the workspace that it leaves. -/
def perform (work : Work α) (machine : Machine) (workspace : Workspace) : α × Workspace :=
  (work.run machine).run workspace

/-- A value leaves the workspace as it is. -/
@[simp] theorem perform_pure (value : α) (machine : Machine) (workspace : Workspace) :
    (pure value : Work α).perform machine workspace = (value, workspace) := rfl

/-- The second step is performed in the workspace that the first one leaves. -/
@[simp] theorem perform_bind
    (work : Work α)
    (next : α → Work β)
    (machine : Machine)
    (workspace : Workspace) :
    (work >>= next).perform machine workspace =
      (next (work.perform machine workspace).1).perform machine
        (work.perform machine workspace).2 := rfl

/-- Asking for the machine. -/
@[simp] theorem perform_read (machine : Machine) (workspace : Workspace) :
    (read : Work Machine).perform machine workspace = (machine, workspace) := rfl

/-- Asking for the workspace. -/
@[simp] theorem perform_get (machine : Machine) (workspace : Workspace) :
    (get : Work Workspace).perform machine workspace = (workspace, workspace) := rfl

/-- Changing the workspace and keeping a value. -/
@[simp] theorem perform_modifyGet
    (act : Workspace → α × Workspace)
    (machine : Machine)
    (workspace : Workspace) :
    (modifyGet act : Work α).perform machine workspace = act workspace := rfl

/-- Nothing is done behind a failure. -/
theorem perform_run_bind
    (work : ExceptT ε Work α)
    (next : α → ExceptT ε Work β)
    (machine : Machine)
    (workspace : Workspace) :
    (work >>= next).run.perform machine workspace =
      match (work.run.perform machine workspace).1 with
      | .ok value =>
          (next value).run.perform machine (work.run.perform machine workspace).2
      | .error failure =>
          (.error failure, (work.run.perform machine workspace).2) := by
  rw [ExceptT.run_bind, perform_bind]
  split <;> simp_all

/-- Work succeeds only if its first step does, and what follows in the workspace left. -/
theorem exists_of_run_bind
    {work : ExceptT ε Work α}
    {next : α → ExceptT ε Work β}
    {machine : Machine}
    {workspace : Workspace}
    {value : β}
    (succeeds : ((work >>= next).run.perform machine workspace).1 = .ok value) :
    ∃ given,
      (work.run.perform machine workspace).1 = .ok given ∧
        ((next given).run.perform machine (work.run.perform machine workspace).2).1 =
          .ok value := by
  rw [perform_run_bind] at succeeds
  cases ended : (work.run.perform machine workspace).1 with
  | error failure =>
      rw [ended] at succeeds
      cases succeeds
  | ok given =>
      rw [ended] at succeeds
      exact ⟨given, rfl, succeeds⟩

/-- Work that cannot fail, as a step of work that can. -/
@[simp] theorem perform_run_lift
    (work : Work α)
    (machine : Machine)
    (workspace : Workspace) :
    (ExceptT.lift work : ExceptT ε Work α).run.perform machine workspace =
      (.ok (work.perform machine workspace).1, (work.perform machine workspace).2) := rfl

/-- Asking for the workspace within work that may fail. -/
@[simp] theorem perform_run_get (machine : Machine) (workspace : Workspace) :
    (get : ExceptT ε Work Workspace).run.perform machine workspace =
      (.ok workspace, workspace) := rfl

/-- A failure is met by what follows it. -/
theorem perform_run_tryCatch
    (work : ExceptT ε Work α)
    (handle : ε → ExceptT ε Work α)
    (machine : Machine)
    (workspace : Workspace) :
    (tryCatch work handle).run.perform machine workspace =
      match (work.run.perform machine workspace).1 with
      | .ok value => (.ok value, (work.run.perform machine workspace).2)
      | .error failure =>
          (handle failure).run.perform machine (work.run.perform machine workspace).2 := by
  rw [ExceptT.run_tryCatch, perform_bind]
  split <;> simp_all

/-- Work whose failures are kept under another name. -/
theorem perform_run_adapt
    {δ : Type}
    (rename : ε → δ)
    (work : ExceptT ε Work α)
    (machine : Machine)
    (workspace : Workspace) :
    (ExceptT.adapt rename work).run.perform machine workspace =
      ((work.run.perform machine workspace).1.mapError rename,
        (work.run.perform machine workspace).2) := rfl

/-- Work on all items is work on the first and then on the others. -/
theorem perform_forM_cons_snd
    (item : α)
    (rest : List α)
    (act : α → Work Unit)
    (machine : Machine)
    (workspace : Workspace) :
    (((item :: rest).forM act).perform machine workspace).2 =
      ((rest.forM act).perform machine ((act item).perform machine workspace).2).2 := rfl

/--
A launch is refused before anything is started, or after the engine was waited for, or it leads
to the end that the engine comes to.
-/
theorem perform_start_cases
    (role : Role)
    (launch : Launch)
    (path : Path)
    (machine : Machine)
    (workspace : Workspace) :
    let waited := (await role path).perform machine (workspace.record launch)
    let started := (start role launch path).perform machine workspace
    started = (.ok waited.1, waited.2) ∨
      ∃ fault, machine.refuses launch = some fault ∧
        (started = (.error fault, workspace) ∨ started = (.error fault, waited.2)) := by
  intro waited started
  have shape : started = _ := perform_bind _ _ machine workspace
  rw [perform_read] at shape
  cases refused : machine.refuses launch with
  | none =>
      simp only [refused] at shape
      exact .inl shape
  | some fault =>
      simp only [refused] at shape
      cases early : fault.isEarly with
      | true =>
          rw [early, if_pos rfl] at shape
          exact .inr ⟨fault, rfl, .inl shape⟩
      | false =>
          rw [early, if_neg Bool.false_ne_true] at shape
          have settled : started = (waited.1.underRefusal fault, waited.2) := shape
          cases ended : waited.1 with
          | unavailable cause | interrupted =>
              exact .inl (by rw [settled, ended]; rfl)
          | finished | timedOut =>
              exact .inr ⟨fault, rfl, .inr (by rw [settled, ended]; rfl)⟩

end Work

/-- A result that has a value is that value. -/
theorem eq_ok_of_toOption
    {ε α : Type}
    {result : Except ε α}
    {value : α}
    (hasValue : result.toOption = some value) :
    result = .ok value := by
  cases result with
  | error failure => cases hasValue
  | ok other => rw [Option.some.inj hasValue]

namespace Machine

/--
A machine on which nothing goes wrong: engines accept, no call fails, new names grow
by a letter each, and turns are given in a row.
-/
def calm : Machine where
  engines := fun _ _ => { outcome := .finished 0 .empty .empty }
  directory := []
  temporary := "/"
  names := fun number => String.ofList (List.replicate (number + 1) 'x')
  faults := fun _ => none
  turns := id

end Machine

end GrammarCorpus
