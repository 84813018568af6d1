import GrammarCorpus.CommandLine.CorpusCommand
import GrammarCorpus.Proofs.Console
import GrammarCorpus.Proofs.Corpus.LastLook
import GrammarCorpus.Proofs.Corpus.Seeds
import GrammarCorpus.Proofs.Markup.Bare

namespace GrammarCorpus

/-!
# How the command for corpora ends

A command line is accepted only with a range of sizes for which letters can be selected. So a
run that was accepted reports one partition for each size, or a failure that is fatal ends it
with an exit status and a message. There are four exceptions. The seed or the scratch directory
may have been dropped, which is noticed only when they are needed; a command or the limit may
have been dropped or make no sense, so that the launch of an engine is refused; and the staging
directory may have a path that is too long although that of the output directory is not.
-/

open Work

namespace Config

variable {config : Config} {size : Int}

/-- Letters can be selected for a size, whatever is drawn. -/
def Selects (config : Config) (size : Int) : Prop :=
  ∀ (σ : Type) [RandomSource σ] [LawfulRandomSource σ],
    (config.selectAlphabet size : Draw σ (List String × List String)).FailsOnly fun _ => False

/-- They can for the sizes that can be asked for. -/
theorem selects_iff : config.Selects size ↔ config.Allows size := by
  constructor
  · intro selects
    by_contra refused
    refine selects Mersenne (Mersenne.ofSeed 0) (refusal size) ?_
    rw [selectAlphabet_of_not_allows refused]
    rfl
  · intro allowed σ _ _
    exact selectAlphabet_failsOnly allowed.1 allowed.2

end Config

namespace Reading

variable {σ : Type} {spec : CommandSpec σ} {rest : List (Word σ)} {reading : Reading σ}

/-- The argument of a command is the first word that no option takes. -/
theorem read_argument
    {name text : String}
    {set : String → σ → σ}
    (isPending : reading.pending = some (.single name set)) :
    read spec (⟨text, .argument⟩ :: rest) reading =
      read spec rest
        { reading with
          choices := set text reading.choices
          pending := none
          justTaken := true } := by
  rw [read]
  simp only [isPending]

/-- An option takes the argument behind it. -/
theorem read_option
    {option : OptionSpec σ}
    {name text : String}
    {choices : σ}
    (wants : option.wantsArgument = true)
    (gives : option.give text reading.choices = .ok choices) :
    read spec (⟨name, .option option .nothing⟩ :: ⟨text, .argument⟩ :: rest) reading =
      read spec rest (reading.choose choices) := by
  have single : Cluster.single option = ⟨[], some (option, none)⟩ := if_pos wants
  rw [read]
  simp only [Cluster.ofCarried, single, Except.mapError, bind, Except.bind, Cluster.switchAll,
    List.foldlM_nil, pure, Except.pure, gives]

end Reading

/-- What passes a test is a value. -/
theorem Argument.exists_of_any
    {α : Type}
    {argument : Argument α}
    {test : α → Bool}
    (passes : argument.any test) :
    ∃ value, argument = .of value ∧ test value := by
  cases argument with
  | dropped => cases passes
  | of value => exact ⟨value, rfl, passes⟩

namespace CorpusChoices

/-- The paths of a run can be handed over, and that of the output directory is not too long. -/
structure IsHanded (choices : CorpusChoices) : Prop where
  output : FileWork.holdsNull choices.output = false
  short : (Path.ofText choices.output).IsShort
  scratch : ∀ text, choices.scratch = some (.of text) → FileWork.holdsNull text = false

/-- The faults of launches that the commands and the limit of a run bring about. -/
def Misleads (choices : CorpusChoices) (machine : Machine) : LaunchFault → Prop
  | .noCommand => .dropped ∈ [choices.bison, choices.hyacc, choices.nimbleparse]
  | .nullInCommand =>
      ∃ role command, ((choices.config.oraclesOn machine).get role).command = .of command ∧
        FileWork.holdsNull command
  | .noLimit => choices.limit = .dropped
  | .limit fault => ∃ limit, choices.limit = .of limit ∧ limit.hasFault fault

/-- The failures of a run that the command does not handle. -/
inductive Escapes (choices : CorpusChoices) (machine : Machine) : Failure → Prop where
  | seed (isDropped : choices.seed = .dropped) : Escapes choices machine (.argument .trialSeed)
  | scratch (isDropped : choices.scratch = some .dropped) :
      Escapes choices machine (.argument .path)
  | launch (fault : LaunchFault) (misleads : choices.Misleads machine fault) :
      Escapes choices machine (.launch fault)
  | staging (failure : Failure)
      (isUnseen : failure.IsUnseen machine (Path.ofText choices.output)) :
      Escapes choices machine failure

/-- A report on one partition for each size, or an exit with a message, or a failure. -/
def EndsIn
    (console : Console)
    (choices : CorpusChoices)
    (machine : Machine)
    (range : CorpusRange)
    (after : (String × Ending Failure) × Workspace) : Prop :=
  (∃ (partitions : List Partition) (text : String),
      partitions.map Partition.size = stride range.fromSize range.toSize 1 ∧
        Partition.report console partitions choices.plain = .ofText text ∧
          after.1 = (text, .finished)) ∨
    (∃ (failure : Failure) (before : String),
      failure.IsFatal ∧ after.1 = ("", .exit 1) ∧
        after.2.messages = before ++ ("\n[FATAL: " ++ failure.message ++ "]\n")) ∨
    ∃ failure, choices.Escapes machine failure ∧ after.1 = ("", .failed failure)

variable {machine : Machine} {choices : CorpusChoices} {range : CorpusRange} {size : Int}
variable {console : Console}

/-- The names of a run are the standard ones. -/
theorem config_isNamedStandardly (choices : CorpusChoices) :
    choices.config.IsNamedStandardly :=
  ⟨rfl, rfl, rfl⟩

/-- Letters can be selected for the sizes from 2 to 26. -/
theorem selects_iff : choices.config.Selects size ↔ 2 ≤ size ∧ size ≤ 26 := by
  rw [Config.selects_iff, Config.Allows, Validation.maxSize_eq choices.config_isNamedStandardly]
  rfl

section Range

/-- A range that is empty, or begins too early, or ends too late, is complained about. -/
theorem range_refuses
    {first last : Int}
    (isFirst : choices.fromSize = .of first)
    (isLast : choices.toSize = .of last)
    (refused : first < 2 ∨ last ≤ first ∨ 26 < last - 1) :
    ∃ complaint, choices.range = .error (.usage (.conflict complaint)) := by
  have largest : (Config.standard.maxSize : Int) = 26 := by decide +kernel
  unfold CorpusChoices.range
  simp only [isFirst, isLast, largest, Argument.needFor, Except.mapError, bind, Except.bind]
  by_cases small : first < 2
  · simp only [small, decide_true, if_true]
    exact ⟨_, rfl⟩
  · by_cases crossed : last ≤ first
    · simp only [small, crossed, decide_true, decide_false, Bool.false_eq_true, if_true, if_false]
      exact ⟨_, rfl⟩
    · have large := (refused.resolve_left small).resolve_left crossed
      simp only [small, crossed, large, decide_true, decide_false, Bool.false_eq_true, if_true,
        if_false]
      exact ⟨_, rfl⟩

/-- A range is complained about if it holds no size, or one for which letters cannot be selected. -/
theorem read_refuses
    {processors : Nat}
    {words : List String}
    {first last : Int}
    (isRead : spec.read words (onProcessors processors) = .ok choices)
    (isFirst : choices.fromSize = .of first)
    (isLast : choices.toSize = .of last)
    (refused : ¬ (first < last ∧ ∀ size ∈ stride first last 1, choices.config.Selects size)) :
    ∃ complaint,
      read processors words = .error ⟨program, .usage (.conflict complaint)⟩ := by
  have outside : first < 2 ∨ last ≤ first ∨ 26 < last - 1 := by
    by_contra inside
    refine refused ⟨by omega, fun size member => ?_⟩
    rw [mem_stride_one] at member
    rw [selects_iff]
    omega
  obtain ⟨complaint, complains⟩ := range_refuses isFirst isLast outside
  refine ⟨complaint, ?_⟩
  unfold read refusedBy
  rw [isRead]
  simp only [bind, Except.bind, complains]
  rfl

/-- For all sizes of a range that is accepted, letters can be selected. -/
theorem selects_of_read
    {processors : Nat}
    {words : List String}
    (accepted : read processors words = .ok (choices, range))
    (member : size ∈ stride range.fromSize range.toSize 1) :
    choices.config.Selects size := by
  obtain ⟨least, greatest⟩ := bounds_of_read accepted
  rw [mem_stride_one] at member
  rw [selects_iff]
  omega

end Range

section Launches

variable {role : Role} {path : Path}

/-- The command of a launch is that of the oracle. -/
theorem command_launch :
    (((choices.config.oraclesOn machine).get role).launch path).command =
      ((choices.config.oraclesOn machine).get role).command := by
  cases role <;> rfl

/-- If a launch has a limit, it is the one that was chosen. -/
theorem limit_launch
    {limit : Argument Seconds}
    (isLimit : (((choices.config.oraclesOn machine).get role).launch path).limit = some limit) :
    choices.limit = limit := by
  cases role with
  | relaxed => exact Option.some.inj isLimit
  | strict | reference => cases isLimit

/-- Only a command that was dropped is none. -/
theorem mem_commands_of_dropped
    (isDropped : ((choices.config.oraclesOn machine).get role).command = .dropped) :
    .dropped ∈ [choices.bison, choices.hyacc, choices.nimbleparse] := by
  cases role with
  | strict =>
      have isBison : choices.bison = .dropped := isDropped
      simp [isBison]
  | relaxed =>
      have isHyacc : choices.hyacc = .dropped := by
        cases isCommand : choices.hyacc with
        | dropped => rfl
        | of command =>
            have anchored : ((choices.config.oraclesOn machine).get .relaxed).command =
              choices.hyacc.map _ := rfl
            rw [anchored, isCommand] at isDropped
            cases isDropped
      simp [isHyacc]
  | reference =>
      have isNimbleparse : choices.nimbleparse = .dropped := isDropped
      simp [isNimbleparse]

/-- A launch of a run has no other faults than those that the choices bring about. -/
theorem misleads_of_hasFault
    {fault : LaunchFault}
    (found : (((choices.config.oraclesOn machine).get role).launch path).hasFault fault) :
    choices.Misleads machine fault := by
  cases fault with
  | noCommand =>
      have isDropped := of_decide_eq_true found
      rw [command_launch] at isDropped
      exact mem_commands_of_dropped isDropped
  | nullInCommand =>
      obtain ⟨command, isCommand, holdsNull⟩ := Argument.exists_of_any found
      exact ⟨role, command, command_launch.symm.trans isCommand, holdsNull⟩
  | noLimit => exact limit_launch (of_decide_eq_true found)
  | limit fault =>
      obtain ⟨limit, isLimit, isFaulty⟩ := (Option.any_eq_true _ _).1 found
      obtain ⟨seconds, rfl, hasFault⟩ := Argument.exists_of_any isFaulty
      exact ⟨seconds, limit_launch isLimit, hasFault⟩

end Launches

section Run

variable (orderly : machine.IsOrderly) (handed : choices.IsHanded)

include orderly

/-- A trial fails fatally, or for want of a seed, or since a launch is refused. -/
theorem attempt_fails
    (selects : choices.config.Selects size)
    {scratch : Path}
    (handedScratch : FileWork.holdsNull scratch.text = false)
    (trial : Int) :
    FailsOnly machine (fun failure => failure.IsFatal ∨ choices.Escapes machine failure)
      (choices.attempt size scratch trial) := by
  unfold attempt
  cases isSeed : choices.seed with
  | dropped => exact .throw (.inr (.seed isSeed))
  | of seed =>
      refine (Trial.run_fails orderly choices.config_isNamedStandardly
        (Config.selects_iff.1 selects) handedScratch trial).mono ?_
      rintro failure (isFatal | ⟨role, path, fault, found, rfl⟩)
      · exact .inl isFatal
      · exact .inr (.launch fault (misleads_of_hasFault found))

include handed

/-- The directory above the scratch directories can be handed over, unless it was dropped. -/
theorem holdsNull_parent (given : choices.scratch ≠ some .dropped) :
    FileWork.holdsNull (choices.config.scratchRoot.getD machine.temporary) = false := by
  have isParent : choices.config.scratchRoot = choices.scratch.map (·.getD "") := rfl
  rw [isParent]
  cases isScratch : choices.scratch with
  | none => exact orderly.temporary
  | some scratch =>
      cases scratch with
      | dropped => exact absurd isScratch given
      | of text => exact handed.scratch text isScratch

/-- A batch gives a partition of its size, or fails in one of the ways that are told. -/
theorem batch_gives (selects : choices.config.Selects size) :
    GivesOrFails machine (fun partition : Partition => partition.size = size)
      (fun failure => failure.IsFatal ∨ choices.Escapes machine failure)
      (choices.batch range size) := by
  unfold batch
  split
  · rename_i isDropped
    exact .throw (.inr (.scratch isDropped))
  · rename_i given
    refine Batch.runWith_gives orderly (Path.holdsNull_ofText handed.output) handed.short
      (holdsNull_parent orderly handed given) ?_
      (fun scratch => attempt_fails orderly selects) _ _ _
    rintro failure (isFatal | isUnseen)
    · exact .inl isFatal
    · exact .inr (.staging failure isUnseen)

/-- A run gives one partition for each size, or fails in one of the ways that are told. -/
theorem generate_gives
    (selects : ∀ size ∈ stride range.fromSize range.toSize 1, choices.config.Selects size) :
    GivesOrFails machine
      (fun partitions : List Partition =>
        partitions.map Partition.size = stride range.fromSize range.toSize 1)
      (fun failure => failure.IsFatal ∨ choices.Escapes machine failure)
      (choices.generate range) :=
  GivesOrFails.andThen (.lift (Keeps.any _)) fun _ =>
    Corpus.batches_give_sizes
      (fun size member => batch_gives orderly handed (selects size member)) []

end Run

section WithoutTrials

variable {output : String}

/-- A word that begins with a slash is no option. -/
theorem classify_of_slash (begins : output.toList.head? = some '/') :
    spec.classify output = .ok .argument := by
  unfold CommandSpec.classify
  split
  · rename_i rest shape
    rw [shape] at begins
    cases begins
  · rfl

/-- The options of a run over one size without trials. -/
def withoutTrials : List (Word CorpusChoices) :=
  [⟨"--from-size", .option spec.options[1] .nothing⟩, ⟨"2", .argument⟩,
    ⟨"--to-size", .option spec.options[2] .nothing⟩, ⟨"3", .argument⟩,
    ⟨"-n", .option spec.options[3] .nothing⟩, ⟨"0", .argument⟩]

/-- Such a run is accepted with any output directory below the root. -/
theorem read_withoutTrials (begins : output.toList.head? = some '/') :
    read 1 [output, "--from-size", "2", "--to-size", "3", "-n", "0"] =
      .ok ({ output, fromSize := .of 2, toSize := .of 3, trials := .of 0, workers := .of 1 },
        ⟨2, 3, 0, 1⟩) := by
  have notDashes : output ≠ "--" := by
    rintro rfl
    cases begins
  have words : spec.classifyAll [output, "--from-size", "2", "--to-size", "3", "-n", "0"] =
      .ok (⟨output, .argument⟩ :: withoutTrials) := by
    rw [CommandSpec.classifyAll, if_neg notDashes, classify_of_slash begins]
    rfl
  have fromSize (choices : CorpusChoices) :
      spec.options[1].give "2" choices = .ok { choices with fromSize := .of 2 } := rfl
  have toSize (choices : CorpusChoices) :
      spec.options[2].give "3" choices = .ok { choices with toSize := .of 3 } := rfl
  have trials (choices : CorpusChoices) :
      spec.options[3].give "0" choices = .ok { choices with trials := .of 0 } := rfl
  have reads : Reading.read spec (⟨output, .argument⟩ :: withoutTrials)
      { choices := onProcessors 1, pending := spec.positional } = .ok {
        choices := { output, fromSize := .of 2, toSize := .of 3, trials := .of 0, workers := .of 1 }
        pending := none } := by
    rw [Reading.read_argument rfl, withoutTrials, Reading.read_option rfl (fromSize _),
      Reading.read_option rfl (toSize _), Reading.read_option rfl (trials _), Reading.read]
    rfl
  unfold read CommandSpec.read CommandSpec.readKnown
  rw [words]
  simp only [pure_bind]
  rw [reads]
  rfl

/-- If the batch of the first size fails, the command ends as it does for that failure. -/
theorem carryOut_of_first_fails
    {words : List String}
    {processors : Nat}
    {seconds : String}
    {workspace begun : Workspace}
    {after : (String × Ending Failure) × Workspace}
    {failure : Failure}
    {later : List Int}
    (accepted : read processors words = .ok (choices, range))
    (announced : ((say (choices.announcement range)).perform machine workspace).2 = begun)
    (sizes : stride range.fromSize range.toSize 1 = size :: later)
    (fails : ((choices.batch range size).run.perform machine begun).1 = .error failure)
    (performed : (carryOut console processors seconds words).perform machine workspace = after) :
    after.1.2 = (endingOf failure).2 := by
  have generates : ((generate choices range).run.perform machine workspace).1 = .error failure := by
    unfold generate
    rw [perform_run_bind, perform_run_lift, announced, sizes]
    exact perform_run_bind_of_error fails
  rw [← performed, carryOut, accepted]
  simp only [perform_bind]
  rw [generates]
  rfl

end WithoutTrials

/-- Whatever a run comes to is reported, or told, or not handled. -/
theorem conclude_endsIn
    (prints : console.PrintsUntagged)
    {result : Except Failure (List Partition)}
    (met : Meets
      (fun partitions : List Partition =>
        partitions.map Partition.size = stride range.fromSize range.toSize 1)
      (fun failure => failure.IsFatal ∨ choices.Escapes machine failure) result)
    (seconds : String)
    (workspace : Workspace) :
    choices.EndsIn console machine range
      ((conclude console choices seconds result).perform machine workspace) := by
  cases result with
  | ok partitions =>
      obtain ⟨text, isComplete⟩ := Partition.report_complete prints partitions choices.plain
      refine .inl ⟨partitions, text, met, isComplete, ?_⟩
      exact congrArg (fun report => (report.text, Ending.ofResult Failure.console report.result))
        isComplete
  | error failure =>
      rcases met with isFatal | escapes
      · refine .inr (.inl ⟨failure, workspace.messages, isFatal, ?_⟩)
        cases failure with
        | batch path cause => exact ⟨rfl, rfl⟩
        | unavailable command cause => exact ⟨rfl, rfl⟩
        | _ => exact isFatal.elim
      · refine .inr (.inr ⟨failure, escapes, ?_⟩)
        cases escapes with
        | seed isDropped => rfl
        | scratch isDropped => rfl
        | launch fault misleads => rfl
        | staging failure isUnseen =>
            obtain ⟨number, -, rfl⟩ := isUnseen
            rfl

/--
For all sizes of a range that is accepted letters can be selected, and the run ends with a report
on one partition for each of these sizes in their order, or with exit status one behind a
message; or a seed or a scratch directory was dropped, or a command or the limit has a fault, or
the staging directory cannot be looked at. A range that holds no size, or one for which letters
cannot be selected, is not accepted.
-/
theorem carryOut_reports_or_exits
    {console : Console}
    {machine : Machine}
    (prints : console.PrintsUntagged)
    (orderly : machine.IsOrderly)
    (processors : Nat)
    (seconds : String)
    (words : List String)
    (workspace : Workspace) :
    (∀ choices range, read processors words = .ok (choices, range) →
      (∀ size ∈ stride range.fromSize range.toSize 1, choices.config.Selects size) ∧
        (choices.IsHanded →
          choices.EndsIn console machine range
            ((carryOut console processors seconds words).perform machine workspace))) ∧
      ∀ choices first last, spec.read words (onProcessors processors) = .ok choices →
        choices.fromSize = .of first → choices.toSize = .of last →
          ¬ (first < last ∧ ∀ size ∈ stride first last 1, choices.config.Selects size) →
            ∃ complaint,
              read processors words = .error ⟨program, .usage (.conflict complaint)⟩ := by
  refine ⟨fun choices range accepted => ?_, fun choices first last => read_refuses⟩
  have selects : ∀ size ∈ stride range.fromSize range.toSize 1, choices.config.Selects size :=
    fun _ => selects_of_read accepted
  refine ⟨selects, fun handed => ?_⟩
  rw [carryOut, accepted]
  exact conclude_endsIn prints (generate_gives orderly handed selects workspace trivial).2 seconds _

/-- Where new names are short, a run over two sizes is reported on or ends with status one. -/
theorem carryOut_reports_or_exits_of_shortNames :
    let words := ["out", "--from-size", "2", "--to-size", "4", "-n", "5"]
    let machine : Machine := { Machine.calm with names := fun _ => "x" }
    Console.page.PrintsUntagged ∧
      machine.IsOrderly ∧
      ((carryOut .page 1 "0.0" words).perform machine { tree := .empty }).1.2 ∈
        [.finished, .exit 1] := by
  intro words machine
  have isName : Path.IsName "x" := Machine.calm_namesApart.isName 0
  have orderly : machine.IsOrderly := { Machine.calm_isOrderly with isName := fun _ => isName }
  refine ⟨Console.page_printsUntagged, orderly, ?_⟩
  let choices : CorpusChoices :=
    { output := "out", fromSize := .of 2, toSize := .of 4, trials := .of 5, workers := .of 1 }
  have accepted : read 1 words = .ok (choices, ⟨2, 4, 5, 1⟩) := by decide +kernel
  have handed : choices.IsHanded :=
    ⟨by decide +kernel, by decide +kernel, nofun⟩
  have short : ((Path.ofText choices.output).child (".staging-" ++ "x")).IsShort := by
    decide +kernel
  have sensible : ∀ fault, ¬ choices.Misleads machine fault := by
    intro fault misleads
    cases fault with
    | noCommand => simp [Misleads, choices] at misleads
    | nullInCommand =>
        obtain ⟨role, command, isCommand, holdsNull⟩ := misleads
        cases role <;> cases isCommand <;> exact absurd holdsNull (by decide +kernel)
    | noLimit => cases misleads
    | limit fault =>
        obtain ⟨limit, isLimit, hasFault⟩ := misleads
        cases isLimit
        cases fault <;> exact absurd hasFault (by decide +kernel)
  obtain ⟨runs, -⟩ := carryOut_reports_or_exits Console.page_printsUntagged orderly 1 "0.0" words
    { tree := .empty }
  rcases (runs _ _ accepted).2 handed with
    ⟨partitions, text, -, -, ended⟩ | ⟨failure, before, -, ended, -⟩ | ⟨failure, escapes, -⟩
  · simp [ended]
  · simp [ended]
  · cases escapes with
    | seed isDropped => cases isDropped
    | scratch isDropped => cases isDropped
    | launch fault misleads => exact absurd misleads (sensible fault)
    | staging failure isUnseen =>
        obtain ⟨number, long, -⟩ := isUnseen
        exact absurd short long

/--
A run without trials fails, if the path of its output directory is as long as is allowed, so that
there is no room for that of a staging directory.
-/
theorem carryOut_fails_of_longOutput :
    let output := (Path.deep 2047).text
    let words := [output, "--from-size", "2", "--to-size", "3", "-n", "0"]
    let choices : CorpusChoices :=
      { output, fromSize := .of 2, toSize := .of 3, trials := .of 0, workers := .of 1 }
    let after := (carryOut .page 1 "0.0" words).perform .calm { tree := .empty }
    Machine.calm.IsOrderly ∧
      read 1 words = .ok (choices, ⟨2, 3, 0, 1⟩) ∧
      choices.IsHanded ∧
      (∃ failure, after.1.2 = .failed failure) ∧
      after.1.2 ∉ [.finished, .exit 1] := by
  intro output words choices after
  have accepted : read 1 words = .ok (choices, ⟨2, 3, 0, 1⟩) :=
    read_withoutTrials (Path.head?_deep 2047)
  have isRead : Path.ofText choices.output = .deep 2047 := Path.ofText_deep 2047
  have handed : choices.IsHanded := by
    refine ⟨Path.holdsNull_deep 2047, ?_, nofun⟩
    rw [isRead]
    exact Path.isShort_deep (by decide) (by decide)
  have isName := Machine.calm_namesApart.isName
  have long : ∀ number, pathLimit < ((Path.ofText choices.output).child
      (".staging-" ++ Machine.calm.names number)).text.utf8ByteSize := by
    intro number
    have front : ".staging-".utf8ByteSize = 9 := by decide
    rw [isRead, Path.utf8ByteSize_deep_child (Delivery.isName_staging (isName number)),
      String.utf8ByteSize_append, front, pathLimit]
    omega
  -- The scratch directory can be made, so that the batch comes to storing its partition.
  have made : ((Scratch.make (choices.config.scratchRoot.getD Machine.calm.temporary)
      Scratch.attempts).run.perform .calm
        ((say (choices.announcement ⟨2, 3, 0, 1⟩)).perform .calm { tree := .empty }).2).1 =
          .ok ⟨.root, ["cfg-gen-x"]⟩ := by
    decide +kernel
  obtain ⟨failure, ⟨number, -, rfl⟩, fails⟩ := Batch.perform_runWith_unseen handed.short
    (Path.holdsNull_ofText handed.output) isName long rfl made (choices.attempt 2) 2
  have sizes : stride 2 3 1 = [2] := by decide
  have isFailed (failure : FileFailure) :
      (endingOf (.file failure)).2 = .failed (.file failure) := rfl
  have ends := carryOut_of_first_fails accepted rfl sizes fails (rfl : _ = after)
  rw [isFailed] at ends
  exact ⟨Machine.calm_isOrderly, accepted, handed, ⟨_, ends⟩, by simp [ends]⟩

/-- A run that is accepted although its seed was dropped fails with its first trial. -/
example :
    ((carryOut .page 1 "0.0" ["out", "--from-size", "2", "--to-size", "3", "--seed=--"]).perform
      .calm { tree := .empty }).1.2 = .failed (.argument .trialSeed) := by
  decide +kernel

end CorpusChoices

end GrammarCorpus
