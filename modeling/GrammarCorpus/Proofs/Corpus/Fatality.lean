import GrammarCorpus.Proofs.Corpus.Batch
import GrammarCorpus.Proofs.Files.Failing
import GrammarCorpus.Proofs.Pool.Foresight
import GrammarCorpus.Proofs.Validation

namespace GrammarCorpus

/-!
# How runs fail

Whatever the tree is and whichever calls meet a fault, a trial with the standard names fails in
three ways: a call about one of its directories fails, or an engine cannot be started, or the
launch of an engine is refused for a fault of its command or of its limit. Everything else is
ruled out: sizes that the alphabets can name are always drawn or given up, what is drawn can be
rendered, and all paths can be handed over.

One call of a run is not reported for a directory, the look at the staging directory when all
files are in place. It fails if the path of that directory is too long, which no earlier call has
to find out: for an empty partition there is none.
-/

open FileTree Work

namespace Failure

/-- A failure of a call about a directory of the run, or of starting an engine. -/
def IsFatal : Failure → Prop
  | batch _ _ => True
  | unavailable _ _ => True
  | _ => False

/-- The failure of a launch that has a fault. -/
def IsRefused (config : Config) (machine : Machine) (failure : Failure) : Prop :=
  ∃ role path fault,
    (((config.oraclesOn machine).get role).launch path).hasFault fault ∧
      failure = .launch fault

/-- The failures of a trial. -/
def EndsTrial (config : Config) (machine : Machine) (failure : Failure) : Prop :=
  failure.IsFatal ∨ failure.IsRefused config machine

/-- A failure of a trial, or a failed call that will be one when a directory is blamed for it. -/
def IsReportable (config : Config) (machine : Machine) (failure : Failure) : Prop :=
  failure.EndsTrial config machine ∨
    ∃ call : FileFailure, call.IsCall ∧ failure = .file call

/-- The failure to look at a staging directory whose path is too long. -/
def IsUnseen (machine : Machine) (output : Path) (failure : Failure) : Prop :=
  ∃ number,
    let staging := output.child (".staging-" ++ machine.names number)
    ¬ staging.IsShort ∧
      failure = .file (.failed { cause := .nameTooLong, path := staging.text })

/-- The failures of storing a partition. -/
def IsForeseen (machine : Machine) (output : Path) (failure : Failure) : Prop :=
  failure.IsFatal ∨ failure.IsUnseen machine output

/-- A failed call is fatal once it is reported for a directory of the run. -/
theorem isFatal_blaming
    {cause : FileFailure}
    (isCall : cause.IsCall)
    (path : String) :
    (blaming path cause).IsFatal := by
  cases cause with
  | failed error => trivial
  | nullInPath => exact isCall.elim

end Failure

/--
A machine on which nobody interrupts, only the engine for LR(k) runs into its limit, launches are
refused for their faults only, and new names and the directory for temporary files can be handed
over.
-/
structure Machine.IsOrderly (machine : Machine) : Prop where
  undisturbed : machine.Undisturbed
  limited : ∀ role text captured,
    (machine.engines role text).outcome = .timedOut captured → role = .relaxed
  refuses : ∀ launch fault, machine.refuses launch = some fault → launch.hasFault fault
  isName : ∀ number, Path.IsName (machine.names number)
  temporary : FileWork.holdsNull machine.temporary = false

/-- The machine on which nothing goes wrong is one. -/
theorem Machine.calm_isOrderly : Machine.calm.IsOrderly where
  undisturbed _ _ := nofun
  limited _ _ _ := nofun
  refuses _ _ := List.find?_some
  isName := Machine.calm_namesApart.isName
  temporary := by decide +kernel

variable {machine : Machine}

/-- The machine that is asked for is the one there is. -/
theorem Machine.asked : Keeps machine (fun _ => True) (· = machine) (read : Work Machine) :=
  fun _ _ => ⟨trivial, rfl⟩

/-- A new name is a name. -/
theorem Machine.IsOrderly.newName (orderly : machine.IsOrderly) :
    Keeps machine (fun _ => True) Path.IsName Work.newName :=
  fun workspace _ => ⟨trivial, orderly.isName workspace.named⟩

namespace Job

variable {α : Type} {property : α → Prop} {path : Path} {config : Config}

/-- Work on files whose failures are reported for a directory fails fatally. -/
theorem ofBatch_fails
    {work : FileWork α}
    (fails : GivesOrFails machine property FileFailure.IsCall work) :
    GivesOrFails machine property Failure.IsFatal (ofBatch path work) :=
  fails.adapt fun _ isCall => Failure.isFatal_blaming isCall _

/-- Work on files fails with a call if it is kept as it is. -/
theorem ofFiles_fails
    {work : FileWork α}
    (fails : GivesOrFails machine property FileFailure.IsCall work) :
    GivesOrFails machine property (Failure.IsReportable config machine) (ofFiles work) :=
  fails.adapt fun call isCall => .inr ⟨call, isCall, rfl⟩

/-- Failed calls are fatal once they are reported for a directory, and the rest is kept. -/
theorem blaming_fails
    {job : Job α}
    (fails : GivesOrFails machine property (Failure.IsReportable config machine) job) :
    GivesOrFails machine property (Failure.EndsTrial config machine) (blaming path job) := by
  refine fails.tryCatch ?_
  rintro failure ((isFatal | isRefused) | ⟨call, isCall, rfl⟩)
  · cases failure with
    | batch path cause => exact .throw (.inl trivial)
    | unavailable command cause => exact .throw (.inl trivial)
    | _ => exact isFatal.elim
  · obtain ⟨role, path, fault, found, rfl⟩ := isRefused
    exact .throw (.inr ⟨role, path, fault, found, rfl⟩)
  · exact .throw (.inl (Failure.isFatal_blaming isCall _))

end Job

namespace Oracle

variable {config : Config} {role : Role} {grammar : Grammar} {directory path : Path}

/-- An engine that is waited for replies, to whatever it reads. -/
theorem await_gives (role : Role) (path : Path) :
    Keeps machine (fun _ => True)
      (fun outcome => ∃ text, outcome = (machine.engines role text).outcome)
      (Work.await role path) := by
  refine Machine.asked.bind ?_
  rintro _ rfl
  refine (Keeps.any _).bind fun found _ => ?_
  cases found with
  | error cause => exact .pure ⟨_, rfl⟩
  | ok location =>
      refine (Keeps.any _).bind fun workspace _ => ?_
      exact (Keeps.any _).bind fun _ _ => .pure ⟨_, rfl⟩

/-- An engine that is started replies, unless its launch has a fault. -/
theorem start_gives
    (orderly : machine.IsOrderly)
    (role : Role)
    (launch : Launch)
    (path : Path) :
    Keeps machine (fun _ => True)
      (Meets (fun outcome => ∃ text, outcome = (machine.engines role text).outcome)
        fun fault => launch.hasFault fault)
      (Work.start role launch path) := by
  refine Keeps.mono (Keeps.start (fun _ => id) (await_gives role path)) ?_
  rintro _ (⟨outcome, replies, rfl⟩ | ⟨fault, refused, rfl⟩)
  · exact replies
  · exact orderly.refuses launch fault refused

/-- Every reply is judged, unless the engine could not be started. -/
theorem judge_meets
    (orderly : machine.IsOrderly)
    (config : Config)
    (launch : Launch)
    {text : String}
    {outcome : Outcome}
    (replies : outcome = (machine.engines role text).outcome) :
    Meets (fun _ => True) Failure.IsFatal
      (((config.oraclesOn machine).get role).judge launch outcome) := by
  cases outcome with
  | finished code out err => cases role <;> trivial
  | unavailable cause => cases role <;> trivial
  | interrupted => exact absurd replies.symm (orderly.undisturbed role text)
  | timedOut captured =>
      obtain rfl := orderly.limited role text captured replies.symm
      trivial

/-- The files of a grammar that has a rendering are written, or a call fails. -/
theorem writeFiles_fails
    {oracle : Oracle}
    {text : String}
    (rendered : oracle.render grammar = .ok text)
    (handed : FileWork.holdsNull directory.text = false)
    (trial : Int) :
    FailsOnly machine (Failure.IsReportable config machine)
      (oracle.writeFiles grammar (oracle.grammarPath directory (toString trial))) := by
  unfold writeFiles
  rw [rendered]
  refine Job.ofFiles_fails (.forM fun item member => FileWork.write_fails ?_ _)
  rcases List.mem_cons.1 member with rfl | isBeside
  · dsimp only
    rw [grammarPath_eq_parts]
    exact Path.holdsNull_snoc handed
      (Path.isName_numbered trial oracle.name_plain.1 oracle.name_plain.2).noNull
  · obtain ⟨ending, plain, -, isPath⟩ := exists_of_mem_companions isBeside
    rw [isPath]
    exact Path.holdsNull_snoc handed (Path.isName_numbered trial plain.1 plain.2).noNull

/-- An engine is asked, or a call fails, or it cannot be started, or its launch is refused. -/
theorem classify_fails
    (orderly : machine.IsOrderly)
    {text : String}
    (rendered : ((config.oraclesOn machine).get role).render grammar = .ok text)
    (handed : FileWork.holdsNull directory.text = false)
    (trial : Int) :
    FailsOnly machine (Failure.IsReportable config machine)
      (((config.oraclesOn machine).get role).classify role grammar directory
        (toString trial)) := by
  refine (writeFiles_fails rendered handed trial).andThen fun _ => ?_
  let path := ((config.oraclesOn machine).get role).grammarPath directory (toString trial)
  let launch := ((config.oraclesOn machine).get role).launch path
  refine (GivesOrFails.lift (start_gives orderly role launch path)).bind ?_
  intro result met
  cases result with
  | error fault => exact .throw (.inl (.inr ⟨role, path, fault, met, rfl⟩))
  | ok outcome =>
      obtain ⟨read, replies⟩ := met
      have judged := judge_meets orderly config launch replies
      dsimp only
      split
      · exact .pure trivial
      · rename_i failure ended
        rw [ended] at judged
        exact .throw (.inl (.inl judged))

end Oracle

namespace Trial

variable {config : Config} {size trial : Int} {scratch : Path}

/-- What is drawn can be rendered for every engine. -/
theorem exists_render
    {grammar : Grammar}
    (drawn : config.trialGrammar size trial = .ok (some grammar))
    (role : Role) :
    ∃ text, ((config.oraclesOn machine).get role).render grammar = .ok text := by
  obtain ⟨generator, root, others, -, -, rfl, -⟩ := config.generate_gives size _ _ drawn _ rfl
  cases role <;> exact ⟨_, rfl⟩

/-- A size that the alphabets can name is drawn, or given up. -/
theorem trialGrammar_ne_error
    (standard : config.IsNamedStandardly)
    (allowed : config.Allows size)
    (error : GenerationError) :
    config.trialGrammar size trial ≠ .error error := by
  intro fails
  exact Validation.generate_failsOnly standard allowed _ error fails

/-- All engines are asked about a grammar that was drawn, or a call or one of them fails. -/
theorem classify_fails
    (orderly : machine.IsOrderly)
    {grammar : Grammar}
    (drawn : config.trialGrammar size trial = .ok (some grammar))
    {directory : Path}
    (handed : FileWork.holdsNull directory.text = false) :
    FailsOnly machine (Failure.IsReportable config machine)
      (classify config size trial grammar directory) := by
  refine GivesOrFails.bind (.lift Machine.asked) ?_
  rintro _ rfl
  refine (Job.ofFiles_fails (FileWork.makeDirectory_fails handed)).andThen fun _ => ?_
  refine GivesOrFails.andThen (.build fun role => ?_) fun verdicts => .pure trivial
  obtain ⟨text, rendered⟩ := exists_render drawn role
  exact Oracle.classify_fails orderly rendered handed trial

/-- A trial comes to its end, or fails fatally, or one of its launches is refused. -/
theorem run_fails
    (orderly : machine.IsOrderly)
    (standard : config.IsNamedStandardly)
    (allowed : config.Allows size)
    (handed : FileWork.holdsNull scratch.text = false)
    (trial : Int) :
    FailsOnly machine (Failure.EndsTrial config machine) (run config size scratch trial) := by
  unfold run
  split
  · rename_i error fails
    exact absurd fails (trialGrammar_ne_error standard allowed error)
  · exact .pure trivial
  · rename_i grammar drawn
    have classifies := classify_fails orderly drawn
      (Path.holdsNull_child handed (Path.isName_toString trial))
    exact (Job.blaming_fails classifies).andThen fun _ => .pure trivial

end Trial

/-- The two places of a file can be handed over. -/
def Placement.IsHanded (placement : Placement) : Prop :=
  FileWork.holdsNull placement.staged.text = false ∧
    FileWork.holdsNull placement.stored.text = false

namespace Store

variable {output staging path : Path}

/-- The place of a file below a path that can be handed over can be handed over. -/
theorem holdsNull_place
    {name : String}
    (handed : FileWork.holdsNull path.text = false)
    (isName : Path.IsName name)
    (corpusClass : CorpusClass)
    (size : Int) :
    FileWork.holdsNull (place path corpusClass size name).text = false :=
  Path.holdsNull_child
    (Path.holdsNull_child (Path.holdsNull_child handed corpusClass.isName_text)
      (Path.isName_toString size)) isName

/-- Writing a file with the directories above it fails with a call. -/
theorem writeBelow_fails (handed : FileWork.holdsNull path.text = false) (text : String) :
    FailsOnly machine FileFailure.IsCall (writeBelow path text) :=
  (FileWork.makeDirectories_fails (Path.holdsNull_parent handed)).andThen fun _ =>
    FileWork.write_fails handed text

/-- Moving a file after making the directories above its new place fails with a call. -/
theorem moveBelow_fails
    {target : Path}
    (handed : FileWork.holdsNull path.text = false)
    (handedTarget : FileWork.holdsNull target.text = false) :
    FailsOnly machine FileFailure.IsCall (moveBelow path target) :=
  (FileWork.makeDirectories_fails (Path.holdsNull_parent handedTarget)).andThen fun _ =>
    FileWork.move_fails handed handedTarget

/-- What is given back names a failed call, if it names a failure. -/
def BlamesCall (result : Option FileFailure × Ledger) : Prop :=
  ∀ failure ∈ result.1, failure.IsCall

/-- A call that failed is blamed. -/
theorem blamesCall_some
    {failure : FileFailure}
    (isCall : failure.IsCall)
    (ledger : Ledger) :
    BlamesCall (some failure, ledger) := by
  rintro _ ⟨⟩
  exact isCall

/-- Staging ends with a failed call, or all places can be handed over. -/
theorem stage_gives
    (orderly : machine.IsOrderly)
    (handed : FileWork.holdsNull output.text = false)
    (handedStaging : FileWork.holdsNull staging.text = false)
    (size : Int)
    (items : List (CorpusClass × Classified))
    {ledger : Ledger}
    (before : ∀ placement ∈ ledger.placements, placement.IsHanded) :
    Keeps machine (fun _ => True)
      (fun result => BlamesCall result ∧ ∀ placement ∈ result.2.placements, placement.IsHanded)
      (stage output staging size items ledger) := by
  induction items generalizing ledger with
  | nil => exact .pure ⟨nofun, before⟩
  | cons item rest inductionHypothesis =>
      obtain ⟨corpusClass, classified⟩ := item
      rw [stage]
      refine orderly.newName.bind fun name isName => ?_
      have staged := holdsNull_place handedStaging isName corpusClass size
      have stored := holdsNull_place handed isName corpusClass size
      refine (writeBelow_fails staged classified.text).run_bind ?_ fun _ _ => ?_
      · exact fun failure isCall => .pure ⟨blamesCall_some isCall _, before⟩
      · refine inductionHypothesis fun placement member => ?_
        rcases List.mem_append.1 member with isBefore | isNew
        · exact before placement isBefore
        · rw [List.mem_singleton.1 isNew]
          exact ⟨staged, stored⟩

/-- Moving staged files into place ends with a failed call if it does not succeed. -/
theorem settle_gives
    {placements : List Placement}
    (handed : ∀ placement ∈ placements, placement.IsHanded)
    (ledger : Ledger) :
    Keeps machine (fun _ => True) BlamesCall (settle placements ledger) := by
  induction placements generalizing ledger with
  | nil => exact .pure nofun
  | cons placement rest inductionHypothesis =>
      obtain ⟨⟨staged, stored⟩, later⟩ := List.forall_mem_cons.1 handed
      rw [settle]
      refine FileWork.missing_fails.run_bind
        (fun _ isCall => .pure (blamesCall_some isCall _)) fun missing _ => ?_
      refine (moveBelow_fails staged stored).run_bind
        (fun _ isCall => .pure (blamesCall_some isCall _)) fun _ _ => ?_
      exact inductionHypothesis later _

/-- Staging and settling end with a failed call if they do not succeed. -/
theorem stageAndSettle_gives
    (orderly : machine.IsOrderly)
    (handed : FileWork.holdsNull output.text = false)
    (handedStaging : FileWork.holdsNull staging.text = false)
    (partition : Partition)
    (created : List Path) :
    Keeps machine (fun _ => True) BlamesCall
      (stageAndSettle partition output staging created) := by
  have nothing : ∀ placement ∈ ([] : List Placement), placement.IsHanded := by simp
  refine (stage_gives orderly handed handedStaging partition.size partition.contents nothing).bind
    ?_
  rintro ⟨failed, ledger⟩ ⟨calls, places⟩
  cases failed with
  | some failure => exact .pure calls
  | none => exact settle_gives places ledger

/-- Below a path that is not too long, storing a partition fails fatally or at the last look. -/
theorem persist_fails
    (orderly : machine.IsOrderly)
    (handed : FileWork.holdsNull output.text = false)
    (short : output.IsShort)
    (partition : Partition) :
    FailsOnly machine (Failure.IsForeseen machine output) (persist partition output) := by
  have finds : FailsOnly machine (Failure.IsForeseen machine output)
      (Job.ofFiles (FileWork.missing output)) :=
    (FileWork.missing_of_isShort short).adapt fun _ impossible => impossible.elim
  have named : Keeps machine (fun _ => True)
      (fun name => ∃ number, name = machine.names number) Work.newName :=
    fun _ _ => ⟨trivial, _, rfl⟩
  refine finds.andThen fun created => GivesOrFails.bind (.lift named) ?_
  rintro _ ⟨number, rfl⟩
  have handedStaging := Path.holdsNull_child handed
    (Delivery.isName_staging (orderly.isName number))
  refine GivesOrFails.bind
    (.lift (stageAndSettle_gives orderly handed handedStaging partition created)) ?_
  rintro ⟨failed, ledger⟩ calls
  cases failed with
  | some failure =>
      refine GivesOrFails.andThen (.lift (Keeps.any _)) fun _ => .throw (.inl ?_)
      exact Failure.isFatal_blaming (calls failure rfl) _
  | none =>
      -- This look is reported for no directory, so what it fails with is kept as it is.
      have looks : FailsOnly machine (Failure.IsForeseen machine output)
          (Job.ofFiles
            (FileWork.isThere (output.child (".staging-" ++ machine.names number)))) := by
        refine FileWork.isThere_fails.adapt ?_
        rintro _ ⟨long, rfl⟩
        exact .inr ⟨number, long, rfl⟩
      refine looks.andThen fun isThere => ?_
      split
      · refine GivesOrFails.andThen ?_ fun _ => .pure trivial
        refine (Job.ofBatch_fails (FileWork.removeTree_fails handedStaging)).mono ?_
        exact fun _ isFatal => .inl isFatal
      · exact .pure trivial

end Store

namespace Scratch

/-- The text of a place below a directory can be handed over if both texts can. -/
theorem holdsNull_below
    {directory name : String}
    (handed : FileWork.holdsNull directory = false)
    (handedName : FileWork.holdsNull name = false) :
    FileWork.holdsNull (below directory name) = false := by
  unfold below
  split
  · rw [Path.holdsNull_append, handed, handedName]
    rfl
  · rw [Path.holdsNull_append, Path.holdsNull_append, handed, handedName]
    decide

/-- A scratch directory is made, with a path that can be handed over, or a call fails. -/
theorem make_handed
    (orderly : machine.IsOrderly)
    {directory : String}
    (handed : FileWork.holdsNull directory = false)
    (attempts : Nat) :
    GivesOrFails machine (fun path => FileWork.holdsNull path.text = false) FileFailure.IsCall
      (make directory attempts) := by
  induction attempts with
  | zero => exact .throw trivial
  | succ attempts inductionHypothesis =>
      refine GivesOrFails.bind (.lift orderly.newName) fun name isName => ?_
      have handedText := holdsNull_below handed isName.scratch.noNull
      have makes : FailsOnly machine FileFailure.IsCall
          (FileWork.makeDirectoryAs (below directory ("cfg-gen-" ++ name))
            (Path.ofText (below directory ("cfg-gen-" ++ name)))) :=
        FileWork.reporting_fails handedText rfl _
      refine GivesOrFails.bind (.lift makes) fun made met => ?_
      cases made with
      | ok value => exact .pure (Path.holdsNull_ofText handedText)
      | error failure =>
          dsimp only
          split
          · exact inductionHypothesis
          · exact .throw met

/-- Work in a scratch directory fails like the work itself, or fatally. -/
theorem within_fails
    {α : Type}
    {property : α → Prop}
    {allowed : Failure → Prop}
    {work : Path → Job α}
    {parent : Option String}
    (orderly : machine.IsOrderly)
    (handed : FileWork.holdsNull (parent.getD machine.temporary) = false)
    (fatal : ∀ failure : Failure, failure.IsFatal → allowed failure)
    (works : ∀ scratch : Path, FileWork.holdsNull scratch.text = false →
      GivesOrFails machine property allowed (work scratch)) :
    GivesOrFails machine property allowed (within Failure.blaming parent work) := by
  refine GivesOrFails.bind (.lift Machine.asked) ?_
  rintro _ rfl
  refine GivesOrFails.bind (.lift (make_handed orderly handed attempts)) fun made met => ?_
  cases made with
  | error failure => exact .throw (fatal _ (Failure.isFatal_blaming met _))
  | ok scratch =>
      refine GivesOrFails.bind (.lift (works scratch met)) fun worked ended => ?_
      cases worked with
      | error failure => exact GivesOrFails.andThen (.lift (Keeps.any _)) fun _ => .throw ended
      | ok found =>
          refine GivesOrFails.andThen ?_ fun _ => .pure ended
          exact (FileWork.removeTree_fails met).adapt fun _ isCall =>
            fatal _ (Failure.isFatal_blaming isCall _)

end Scratch

namespace Batch

variable {attempt : Attempt} {allowed : Failure → Prop} {scratch output : Path}
variable {parent : Option String}

/-- Trials that are made in order fail like one of them. -/
theorem sequentially_fails
    (attempts : ∀ trial, FailsOnly machine allowed (attempt scratch trial))
    (trials : Int)
    (numbers : List Int)
    (found : List Classified) :
    FailsOnly machine allowed (sequentially attempt trials scratch numbers found) := by
  induction numbers generalizing found with
  | nil => exact .pure trivial
  | cons trial later inductionHypothesis =>
      refine (attempts trial).andThen fun _ => ?_
      exact GivesOrFails.andThen (.lift (Keeps.any _)) fun _ => inductionHypothesis _

/-- Trials that are shared among workers fail like one of them. -/
theorem concurrently_fails
    (attempts : ∀ trial, FailsOnly machine allowed (attempt scratch trial))
    {workers : Int}
    (someWorker : 1 ≤ workers)
    (size trials : Int) :
    FailsOnly machine allowed (concurrently attempt size trials scratch workers) := by
  -- The workers may take turns in any way: with hindsight each trial had one outcome, and the
  -- failure that is told is that of some trial.
  intro workspace _
  refine ⟨trivial, ?_⟩
  obtain ⟨outcome, had, ends⟩ := concurrently_exists_outcome
    (fun workspace trial => (attempts trial workspace trivial).2) someWorker size trials workspace
  cases ended : ((concurrently attempt size trials scratch workers).run.perform
      machine workspace).1 with
  | ok found => trivial
  | error failure =>
      rw [ended] at ends
      obtain ⟨trial, failsFirst, -⟩ := ends
      have met := had trial
      rw [failsFirst.fails] at met
      exact met

/-- The trials of a batch fail like one of them, for any number of workers. -/
theorem results_fails
    (attempts : ∀ trial, FailsOnly machine allowed (attempt scratch trial))
    (size trials workers : Int) :
    FailsOnly machine allowed (results attempt size trials workers scratch) := by
  unfold results
  split
  · exact concurrently_fails attempts (by omega) size trials
  · exact sequentially_fails attempts trials _ []

/-- A batch gives a partition of its size, or fails like its trials or like storing it. -/
theorem runWith_gives
    (orderly : machine.IsOrderly)
    (handed : FileWork.holdsNull output.text = false)
    (short : output.IsShort)
    (handedParent : FileWork.holdsNull (parent.getD machine.temporary) = false)
    (foreseen : ∀ failure : Failure, failure.IsForeseen machine output → allowed failure)
    (attempts : ∀ scratch : Path, FileWork.holdsNull scratch.text = false →
      ∀ trial, FailsOnly machine allowed (attempt scratch trial))
    (size trials workers : Int) :
    GivesOrFails machine (fun partition : Partition => partition.size = size) allowed
      (runWith attempt parent size trials output workers) := by
  rw [runWith_eq]
  have works : ∀ scratch : Path, FileWork.holdsNull scratch.text = false →
      GivesOrFails machine (fun partition : Partition => partition.size = size) allowed
        (work attempt size trials output workers scratch) := by
    intro scratch handedScratch
    refine (results_fails (attempts scratch handedScratch) size trials workers).andThen ?_
    intro found
    refine GivesOrFails.andThen ?_ fun _ => .pure rfl
    exact (Store.persist_fails orderly handed short _).mono foreseen
  refine GivesOrFails.bind (Scratch.within_fails orderly handedParent
    (fun failure isFatal => foreseen failure (.inl isFatal)) works) fun partition isOfSize => ?_
  exact GivesOrFails.andThen (.lift (Keeps.any _)) fun _ => .pure isOfSize

end Batch

/-- Batches give one partition each, in the order of their sizes, or fail like one of them. -/
theorem Corpus.batches_give_sizes
    {batch : Int → Job Partition}
    {allowed : Failure → Prop}
    {sizes : List Int}
    (each : ∀ size ∈ sizes,
      GivesOrFails machine (fun partition : Partition => partition.size = size) allowed
        (batch size))
    (partitions : List Partition) :
    GivesOrFails machine
      (fun all : List Partition => all.map Partition.size = partitions.map Partition.size ++ sizes)
      allowed (batches batch sizes partitions) := by
  induction sizes generalizing partitions with
  | nil => exact .pure (List.append_nil _).symm
  | cons size later inductionHypothesis =>
      obtain ⟨first, others⟩ := List.forall_mem_cons.1 each
      refine first.bind fun partition isOfSize => ?_
      have rest := inductionHypothesis others (partitions ++ [partition])
      rw [List.map_append, List.map_singleton, isOfSize, List.append_assoc,
        List.singleton_append] at rest
      exact rest

end GrammarCorpus
