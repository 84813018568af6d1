import GrammarCorpus.Proofs.Files.Naming
import GrammarCorpus.Proofs.Keeping

namespace GrammarCorpus

/-!
# What trials find out

Whatever is in the tree, and whichever calls fail, a trial that comes to its end has found
out what its number settles: it has no result if its stream yields no grammar, and else its
result has the rendering of that grammar, and the verdicts on what the engines reply to
their renderings. For an engine reads what was written for it and nothing else: the file of
a grammar is written right before, and the files that go with it lie beside.
-/

open FileTree Work

namespace Path

/-- The text of a number with something behind a point is a name. -/
theorem isName_numbered
    (value : Int)
    {ending : String}
    (noSlash : '/' ∉ ending.toList)
    (noNull : FileWork.holdsNull ending = false) :
    IsName (toString value ++ "." ++ ending) := by
  have begins := Machine.head_toString value ("." ++ ending).toList
  rw [← String.toList_append, ← String.append_assoc] at begins
  refine {
    notEmpty := ?_
    notPoint := fun same => begins.1 (by rw [same]; rfl)
    notTwoPoints := fun same => begins.1 (by rw [same]; rfl)
    noSlash := ?_
    noNull := ?_ }
  · intro empty
    have lengths := congrArg (·.toList.length) empty
    simp at lengths
  · rw [String.toList_append, String.toList_append, List.mem_append, List.mem_append, not_or,
      not_or]
    exact ⟨⟨(isName_toString value).noSlash, by decide⟩, noSlash⟩
  · rw [holdsNull_append, holdsNull_append, (isName_toString value).noNull, noNull]
    decide

/-- The suffix of a name is what follows its last point. -/
theorem withoutSuffix_append
    {before suffix : List Char}
    (someBefore : before ≠ [])
    (someSuffix : suffix ≠ [])
    (noPoint : '.' ∉ suffix) :
    withoutSuffix (before ++ '.' :: suffix) = before := by
  have plain : ∀ character ∈ suffix.reverse, decide (character ≠ '.') = true := by
    intro character member
    rw [decide_eq_true_eq]
    rintro rfl
    exact noPoint (List.mem_reverse.1 member)
  have turned : (before ++ '.' :: suffix).reverse = suffix.reverse ++ '.' :: before.reverse := by
    simp
  unfold withoutSuffix
  simp only [turned, List.takeWhile_append_of_pos plain, List.dropWhile_append_of_pos plain]
  simp [someBefore, someSuffix]

/-- The last suffix of a numbered name is put in place of another. -/
theorem withSuffix_numbered
    (path : Path)
    (value : Int)
    (ending last other : String)
    (some : last ≠ "")
    (noPoint : '.' ∉ last.toList) :
    withSuffix
        { path with parts := path.parts ++ [toString value ++ "." ++ (ending ++ "." ++ last)] }
        ("." ++ other) =
      { path with parts := path.parts ++ [toString value ++ "." ++ (ending ++ "." ++ other)] } := by
  have cut : withoutSuffix (toString value ++ "." ++ (ending ++ "." ++ last)).toList =
      (toString value ++ "." ++ ending).toList := by
    have shape : (toString value ++ "." ++ (ending ++ "." ++ last)).toList =
        (toString value ++ "." ++ ending).toList ++ '.' :: last.toList := by
      simp
    rw [shape]
    refine withoutSuffix_append ?_ ?_ noPoint
    · simp
    · simpa using some
  unfold withSuffix
  simp only [List.getLast?_concat, List.dropLast_concat, cut, String.ofList_toList]
  simp [String.append_assoc]

end Path

namespace FileTree

variable {tree : FileTree} {directory location target place : Location} {path : Path}
variable {entry : Entry}

/-- A walk does not change if something is put where no directory stands. -/
theorem walk_insert
    {parts : List String}
    (leads : tree.walk location parts = .ok target)
    (noDirectory : tree.isDirectory place = false) :
    (tree.insert place entry).walk location parts = .ok target := by
  induction parts generalizing location with
  | nil => exact leads
  | cons part parts inductionHypothesis =>
      simp only [walk] at leads ⊢
      cases entered : tree.enter location part with
      | error cause =>
          rw [entered] at leads
          cases leads
      | ok next =>
          have here := isDirectory_of_enter entered
          have apart : location ≠ place := by
            rintro rfl
            rw [here] at noDirectory
            cases noDirectory
          have stays : (tree.insert place entry).isDirectory location = true := by
            cases location with
            | nil => rfl
            | cons name parent =>
                rw [isDirectory_iff, find?_insert _ _ _ _ (List.cons_ne_nil _ _), if_neg apart]
                exact isDirectory_iff.1 here
          rw [entered] at leads
          rw [enter_congr part here stays, entered]
          exact inductionHypothesis leads

/-- A path leads to the same place if something is put where no directory stands. -/
theorem resolve_insert
    (leads : tree.resolve directory path = .ok target)
    (noDirectory : tree.isDirectory place = false) :
    (tree.insert place entry).resolve directory path = .ok target := by
  unfold resolve at leads ⊢
  split at leads
  · cases leads
  · rename_i short
    rw [if_neg short]
    exact walk_insert leads noDirectory

end FileTree

namespace FileWork

variable {machine : Machine} {workspace : Workspace} {path : Path} {outer : List String}
variable {name other : String}

/-- Where a file was written, it stands. -/
theorem leadsToFile_of_write
    {text : String}
    (done : ((write path text).run.perform machine workspace).1 = .ok ()) :
    ((write path text).run.perform machine workspace).2.tree.LeadsToFile machine.directory path
      text.toUTF8 := by
  rcases write_cases machine workspace path text with
    ⟨failure, fails, -⟩ | ⟨location, content, leads, noDirectory, inserted, whole⟩
  · cases fails.symm.trans done
  · have below : location ≠ [] := by
      rintro rfl
      cases noDirectory
    rw [inserted]
    refine ⟨location, resolve_insert leads noDirectory, ?_⟩
    rw [find?_insert_below below, if_pos rfl, whole done]

/-- A file stays when another one is written that has another name. -/
theorem write_keeps_leadsToFile
    {content : ByteArray}
    (text : String)
    (plain : name ≠ "..")
    (plainOther : other ≠ "..")
    (apart : name ≠ other) :
    KeepsOrFails machine
      (fun workspace => workspace.tree.LeadsToFile machine.directory
        { path with parts := outer ++ [name] } content)
      (fun _ => True) (write { path with parts := outer ++ [other] } text) := by
  refine .of_forall fun workspace ⟨location, leads, holds⟩ => ?_
  rcases write_cases machine workspace { path with parts := outer ++ [other] } text with
    ⟨failure, -, same⟩ | ⟨place, written, leadsOther, noDirectory, inserted, -⟩
  · rw [same]
    exact ⟨location, leads, holds⟩
  · have below : place ≠ [] := by
      rintro rfl
      cases noDirectory
    rw [inserted]
    refine ⟨location, resolve_insert leads noDirectory, ?_⟩
    rw [find?_insert_below below, if_neg]
    · exact holds
    · rintro rfl
      have same := (head?_of_resolve leads plain).symm.trans
        (head?_of_resolve leadsOther plainOther)
      exact apart (Option.some.inj same)

/-- The first of several files stays as it was written if the others leave it. -/
theorem leadsToFile_of_writes
    {text : String}
    {others : List (Path × String)}
    (beside : ∀ item ∈ others, KeepsOrFails machine
      (fun workspace => workspace.tree.LeadsToFile machine.directory path text.toUTF8)
      (fun _ => True) (write item.1 item.2))
    (done : ((Job.ofFiles (((path, text) :: others).forM fun item =>
      write item.1 item.2) : Job Unit).run.perform machine workspace).1 = .ok ()) :
    ((Job.ofFiles (((path, text) :: others).forM fun item =>
      write item.1 item.2) : Job Unit).run.perform machine workspace).2.tree.LeadsToFile
        machine.directory path text.toUTF8 := by
  have shape : ((path, text) :: others).forM (fun item => write item.1 item.2) =
      write path text >>= fun _ => others.forM fun item => write item.1 item.2 := rfl
  rw [Job.ofFiles, perform_run_adapt, shape, perform_run_bind] at done ⊢
  cases written : ((write path text).run.perform machine workspace).1 with
  | error failure =>
      rw [written] at done
      cases done
  | ok value => exact (KeepsOrFails.forM beside _ (leadsToFile_of_write written)).1

end FileWork

/-- The user does not interrupt work on files. -/
theorem Job.isInterrupt_of_ofFiles
    {α : Type}
    {machine : Machine}
    {workspace : Workspace}
    {work : FileWork α}
    {failure : Failure}
    (failed : ((Job.ofFiles work).run.perform machine workspace).1 = .error failure) :
    failure.isInterrupt = false := by
  rw [Job.ofFiles, perform_run_adapt] at failed
  cases ended : (work.run.perform machine workspace).1 with
  | error cause =>
      rw [ended] at failed
      cases failed
      rfl
  | ok value =>
      rw [ended] at failed
      cases failed

/-- No engine is cut short by the user. -/
def Machine.Undisturbed (machine : Machine) : Prop :=
  ∀ role text, (machine.engines role text).outcome ≠ .interrupted

namespace Oracle

variable {machine : Machine} {workspace : Workspace} {oracle : Oracle} {grammar : Grammar}

/-- Where there is no canonical rendering, the engine for LR(k) has none either. -/
theorem render_of_absent
    {limit : Argument Seconds}
    (isDialect : oracle.dialect = some (.hyacc limit))
    (absent : grammar.canonical? = none) :
    oracle.render grammar = .error .noRoot := by
  unfold render
  rw [isDialect]
  simp only [absent]

/-- The verdict on what becomes of an engine, if there is one, however it was called. -/
def verdictOn? (oracle : Oracle) (outcome : Outcome) : Option Verdict :=
  (oracle.judge (oracle.launch ⟨.relative, []⟩) outcome).toOption

/-- What an engine reads of a text that was written for it. -/
def reading (text : String) : String :=
  (Text.decode? text.toUTF8).getD ""

/-- The verdict on the reply of an engine to its rendering of a grammar. -/
def opinion? (oracle : Oracle) (engines : Engines) (role : Role) (grammar : Grammar) :
    Option Verdict :=
  match oracle.render grammar with
  | .error _ => none
  | .ok text => oracle.verdictOn? (engines role (reading text)).outcome

/-- How an engine was called does not matter to the verdict. -/
theorem verdictOn?_of_judge
    {launch : Launch}
    {outcome : Outcome}
    {verdict : Verdict}
    (judged : oracle.judge launch outcome = .ok verdict) :
    oracle.verdictOn? outcome = some verdict := by
  obtain ⟨_ | dialect, command⟩ := oracle
  · cases judged
  · cases dialect <;> cases outcome <;> cases judged <;> rfl

/-- Only what the user interrupts fails as an interrupt. -/
theorem eq_interrupted_of_judge
    {launch : Launch}
    {outcome : Outcome}
    {failure : Failure}
    (failed : oracle.judge launch outcome = .error failure)
    (interrupt : failure.isInterrupt = true) :
    outcome = .interrupted := by
  obtain ⟨_ | dialect, command⟩ := oracle
  · cases failed
    cases interrupt
  · cases dialect <;> cases outcome <;> cases failed <;> first | rfl | cases interrupt

/-- What the file for a grammar ends with can stand in a name. -/
theorem name_plain (oracle : Oracle) :
    '/' ∉ (oracle.name ++ ".y").toList ∧ FileWork.holdsNull (oracle.name ++ ".y") = false := by
  have known : ∀ short ∈ ["oracle", "bison", "hyacc", "lrpar"],
      '/' ∉ (short ++ ".y").toList ∧ FileWork.holdsNull (short ++ ".y") = false := by
    decide
  exact known oracle.name (by unfold name; split <;> simp)

/-- The file for a grammar lies in the directory of the trial. -/
theorem grammarPath_eq_parts (oracle : Oracle) (directory : Path) (trial : Int) :
    oracle.grammarPath directory (toString trial) =
      { directory with
        parts := directory.parts ++ [toString trial ++ "." ++ (oracle.name ++ ".y")] } := by
  have isName := Path.isName_numbered trial oracle.name_plain.1 oracle.name_plain.2
  rw [← Path.child_isName isName, grammarPath, String.append_assoc]

/-- The endings and the texts of the files that go with the file for a grammar. -/
def extras (oracle : Oracle) (grammar : Grammar) : List (String × String) :=
  match oracle.dialect with
  | some .grmtools => [("lrpar.l", grammar.lexer), ("lrpar.in", "")]
  | _ => []

/-- What goes with the file for a grammar lies beside it. -/
theorem companions_eq_map (oracle : Oracle) (grammar : Grammar) (directory : Path) (trial : Int) :
    oracle.companions grammar (oracle.grammarPath directory (toString trial)) =
      (oracle.extras grammar).map fun extra =>
        ({ directory with parts := directory.parts ++ [toString trial ++ "." ++ extra.1] },
          extra.2) := by
  obtain ⟨_ | dialect, command⟩ := oracle
  · rfl
  · cases dialect with
    | bison => rfl
    | hyacc limit => rfl
    | grmtools =>
        have suffix : ∀ other,
            (grammarPath ⟨some .grmtools, command⟩ directory (toString trial)).withSuffix
                ("." ++ other) =
              { directory with parts := directory.parts ++
                  [toString trial ++ "." ++ ("lrpar" ++ "." ++ other)] } := by
          intro other
          rw [grammarPath_eq_parts]
          exact Path.withSuffix_numbered directory trial "lrpar" "y" other (by decide) (by decide)
        have lexer : (grammarPath ⟨some .grmtools, command⟩ directory (toString trial)).withSuffix
            ".l" = _ := suffix "l"
        have input : (grammarPath ⟨some .grmtools, command⟩ directory (toString trial)).withSuffix
            ".in" = _ := suffix "in"
        simp only [companions, lexer, input]
        rfl

/-- The other endings can stand in names, and differ from that of the file for a grammar. -/
theorem ending_plain_of_mem_extras
    {extra : String × String}
    (member : extra ∈ oracle.extras grammar) :
    ('/' ∉ extra.1.toList ∧ FileWork.holdsNull extra.1 = false) ∧
      oracle.name ++ ".y" ≠ extra.1 := by
  obtain ⟨_ | dialect, command⟩ := oracle
  · cases member
  · cases dialect with
    | bison => cases member
    | hyacc limit => cases member
    | grmtools =>
        rcases List.mem_cons.1 member with rfl | isInput
        · exact ⟨(by decide : '/' ∉ "lrpar.l".toList ∧ FileWork.holdsNull "lrpar.l" = false),
            (by decide : "lrpar" ++ ".y" ≠ "lrpar.l")⟩
        · obtain rfl := List.mem_singleton.1 isInput
          exact ⟨(by decide : '/' ∉ "lrpar.in".toList ∧ FileWork.holdsNull "lrpar.in" = false),
            (by decide : "lrpar" ++ ".y" ≠ "lrpar.in")⟩

/-- What goes with the file for a grammar lies beside it, with another ending. -/
theorem exists_of_mem_companions
    {directory : Path}
    {trial : Int}
    {item : Path × String}
    (member : item ∈
      oracle.companions grammar (oracle.grammarPath directory (toString trial))) :
    ∃ ending,
      ('/' ∉ ending.toList ∧ FileWork.holdsNull ending = false) ∧
        oracle.name ++ ".y" ≠ ending ∧
        item.1 =
          { directory with parts := directory.parts ++ [toString trial ++ "." ++ ending] } := by
  rw [companions_eq_map] at member
  obtain ⟨extra, isExtra, rfl⟩ := List.mem_map.1 member
  obtain ⟨plain, apart⟩ := ending_plain_of_mem_extras isExtra
  exact ⟨extra.1, plain, apart, rfl⟩

/-- When the files of a grammar are written, its rendering stands where the engine looks. -/
theorem writeFiles_cases
    (machine : Machine)
    (workspace : Workspace)
    (oracle : Oracle)
    (grammar : Grammar)
    (directory : Path)
    (trial : Int) :
    (∃ failure,
      ((oracle.writeFiles grammar (oracle.grammarPath directory (toString trial))).run.perform
          machine workspace).1 = .error failure ∧
        failure.isInterrupt = false) ∨
      ∃ text,
        ((oracle.writeFiles grammar (oracle.grammarPath directory (toString trial))).run.perform
            machine workspace).1 = .ok () ∧
          oracle.render grammar = .ok text ∧
          ((oracle.writeFiles grammar (oracle.grammarPath directory (toString trial))).run.perform
            machine workspace).2.tree.LeadsToFile machine.directory
              (oracle.grammarPath directory (toString trial)) text.toUTF8 := by
  unfold writeFiles
  cases rendered : oracle.render grammar with
  | error error => exact .inl ⟨_, rfl, rfl⟩
  | ok text =>
      dsimp only
      have beside : ∀ item ∈ oracle.companions grammar
            (oracle.grammarPath directory (toString trial)),
          KeepsOrFails machine
            (fun workspace => workspace.tree.LeadsToFile machine.directory
              (oracle.grammarPath directory (toString trial)) text.toUTF8)
            (fun _ => True) (FileWork.write item.1 item.2) := by
        intro item member
        obtain ⟨ending, plain, apart, isBeside⟩ := exists_of_mem_companions member
        rw [isBeside, grammarPath_eq_parts]
        exact FileWork.write_keeps_leadsToFile item.2
          (Path.isName_numbered trial oracle.name_plain.1 oracle.name_plain.2).notTwoPoints
          (Path.isName_numbered trial plain.1 plain.2).notTwoPoints
          (fun same => apart ((String.append_right_inj _).1 same))
      cases ended : ((Job.ofFiles (((oracle.grammarPath directory (toString trial), text) ::
          oracle.companions grammar (oracle.grammarPath directory (toString trial))).forM
            fun item => FileWork.write item.1 item.2) : Job Unit).run.perform
              machine workspace).1 with
      | error failure => exact .inl ⟨failure, rfl, Job.isInterrupt_of_ofFiles ended⟩
      | ok value => exact .inr ⟨text, rfl, rfl, FileWork.leadsToFile_of_writes beside ended⟩

/-- An engine reads the file that its path leads to, and leaves its own beside. -/
theorem perform_await
    {path : Path}
    {location : Location}
    {content : ByteArray}
    (workspace : Workspace)
    (role : Role)
    (leads : workspace.tree.resolve machine.directory path = .ok location)
    (holds : workspace.tree.find? location = some (.file content)) :
    let reply := machine.engines role ((Text.decode? content).getD "")
    (await role path).perform machine workspace =
      (reply.outcome, ((reply.leaves.forM (leave location)).perform machine workspace).2) := by
  intro reply
  unfold await
  simp only [perform_bind, perform_read, perform_locate, leads, perform_get, perform_pure,
    FileTree.readFile, holds]
  rfl

/-- An engine replies to the file that its path leads to, unless its launch is refused. -/
theorem perform_start_fst
    {path : Path}
    {content : ByteArray}
    (role : Role)
    (launch : Launch)
    (stands : workspace.tree.LeadsToFile machine.directory path content) :
    ((start role launch path).perform machine workspace).1 =
        .ok (machine.engines role ((Text.decode? content).getD "")).outcome ∨
      ∃ fault, ((start role launch path).perform machine workspace).1 = .error fault := by
  obtain ⟨location, leads, holds⟩ := stands
  rcases perform_start_cases role launch path machine workspace with
    started | ⟨fault, -, started | started⟩ <;> rw [started]
  · exact .inl (by rw [perform_await (workspace.record launch) role leads holds])
  · exact .inr ⟨fault, rfl⟩
  · exact .inr ⟨fault, rfl⟩

/-- Asking an engine gives the verdict on its reply, or fails; what is judged is settled. -/
theorem classify_gives
    (machine : Machine)
    (workspace : Workspace)
    (oracle : Oracle)
    (role : Role)
    (grammar : Grammar)
    (directory : Path)
    (trial : Int) :
    (∃ failure,
      ((oracle.classify role grammar directory (toString trial)).run.perform
          machine workspace).1 = .error failure ∧
        (machine.Undisturbed → failure.isInterrupt = false)) ∨
      ∃ verdict,
        ((oracle.classify role grammar directory (toString trial)).run.perform
            machine workspace).1 = .ok verdict ∧
          oracle.opinion? machine.engines role grammar = some verdict := by
  unfold classify
  simp only [perform_run_bind, perform_run_lift]
  rcases writeFiles_cases machine workspace oracle grammar directory trial with
    ⟨failure, failed, noInterrupt⟩ | ⟨text, written, rendered, stands⟩
  · rw [failed]
    exact .inl ⟨failure, rfl, fun _ => noInterrupt⟩
  · rw [written]
    dsimp only
    rcases perform_start_fst role
        (oracle.launch (oracle.grammarPath directory (toString trial))) stands with
      started | ⟨fault, refused⟩
    · rw [started]
      dsimp only
      cases judged : oracle.judge
          (oracle.launch (oracle.grammarPath directory (toString trial)))
          (machine.engines role (reading text)).outcome with
      | error failure =>
          simp only [reading] at judged
          rw [judged]
          refine .inl ⟨failure, rfl, fun undisturbed => ?_⟩
          rw [← Bool.not_eq_true]
          exact fun interrupt => undisturbed role _ (eq_interrupted_of_judge judged interrupt)
      | ok verdict =>
          have settled : oracle.opinion? machine.engines role grammar = some verdict := by
            unfold opinion?
            rw [rendered]
            exact verdictOn?_of_judge judged
          simp only [reading] at judged
          rw [judged]
          exact .inr ⟨verdict, rfl, settled⟩
    · rw [refused]
      exact .inl ⟨_, rfl, fun _ => rfl⟩

end Oracle

namespace Config

/-- The grammar that a trial draws, if it draws one. -/
def drawn? (config : Config) (size trial : Int) : Option Grammar :=
  (config.trialGrammar size trial).toOption.join

/-- Whether the engine of a role accepts the grammar that a trial draws. -/
def accepts (config : Config) (machine : Machine) (size trial : Int) (role : Role) : Bool :=
  (((config.drawn? size trial).bind
    (((config.oraclesOn machine).get role).opinion? machine.engines role)).any Verdict.accepted)

end Config

namespace Trial

variable {machine : Machine} {config : Config} {size trial : Int}

/-- A result is what is found about the grammar that a trial draws. -/
structure Judges
    (machine : Machine)
    (config : Config)
    (size : Int)
    (classified : Classified)
    (grammar : Grammar) : Prop where
  size_eq : classified.size = size
  drawn : config.trialGrammar size classified.trial = .ok (some grammar)
  rendered : grammar.canonical? = some classified.text
  judged : ∀ role, ((config.oraclesOn machine).get role).opinion? machine.engines role grammar =
    some (classified.verdicts.get role)

/-- What a trial may come to, whatever the workspace is. -/
def MayEnd (machine : Machine) (config : Config) (size trial : Int) :
    Except Failure (Option Classified) → Prop
  | .error failure => machine.Undisturbed → failure.isInterrupt = false
  | .ok none => config.trialGrammar size trial = .ok none
  | .ok (some classified) =>
      classified.trial = trial ∧ ∃ grammar, Judges machine config size classified grammar

/-- A result tells which engines accept. -/
theorem Judges.accepted
    {classified : Classified}
    {grammar : Grammar}
    (judges : Judges machine config size classified grammar)
    (role : Role) :
    classified.accepted role = config.accepts machine size classified.trial role := by
  have drawn : config.drawn? size classified.trial = some grammar := by
    rw [Config.drawn?, judges.drawn]
    rfl
  rw [Config.accepts, drawn, Option.bind_some, judges.judged role]
  rfl

/-- Computing for all roles fails, or gives what is computed for each. -/
theorem build_gives
    {α : Type}
    {make : Role → Job α}
    (Gives : Role → α → Prop)
    (each : ∀ workspace role,
      (∃ failure,
        ((make role).run.perform machine workspace).1 = .error failure ∧
          (machine.Undisturbed → failure.isInterrupt = false)) ∨
        ∃ value, ((make role).run.perform machine workspace).1 = .ok value ∧ Gives role value)
    (workspace : Workspace) :
    (∃ failure,
      ((PerRole.build make).run.perform machine workspace).1 = .error failure ∧
        (machine.Undisturbed → failure.isInterrupt = false)) ∨
      ∃ values,
        ((PerRole.build make).run.perform machine workspace).1 = .ok values ∧
          ∀ role, Gives role (values.get role) := by
  unfold PerRole.build
  simp only [perform_run_bind]
  rcases each workspace .strict with ⟨failure, failed, kind⟩ | ⟨strict, made, isStrict⟩
  · rw [failed]
    exact .inl ⟨failure, rfl, kind⟩
  rw [made]
  simp only
  rcases each ((make .strict).run.perform machine workspace).2 .relaxed with
    ⟨failure, failed, kind⟩ | ⟨relaxed, madeNext, isRelaxed⟩
  · rw [failed]
    exact .inl ⟨failure, rfl, kind⟩
  rw [madeNext]
  simp only
  rcases each ((make .relaxed).run.perform machine
      ((make .strict).run.perform machine workspace).2).2 .reference with
    ⟨failure, failed, kind⟩ | ⟨reference, madeLast, isReference⟩
  · rw [failed]
    exact .inl ⟨failure, rfl, kind⟩
  rw [madeLast]
  refine .inr ⟨⟨strict, relaxed, reference⟩, rfl, fun role => ?_⟩
  cases role with
  | strict => exact isStrict
  | relaxed => exact isRelaxed
  | reference => exact isReference

/-- Whatever the workspace is, a trial comes to what its number settles, or fails. -/
theorem run_mayEnd
    (machine : Machine)
    (config : Config)
    (size : Int)
    (scratch : Path)
    (workspace : Workspace)
    (trial : Int) :
    MayEnd machine config size trial
      ((run config size scratch trial).run.perform machine workspace).1 := by
  unfold run
  split
  · exact fun _ => rfl
  · rename_i drawn
    exact drawn
  · rename_i grammar drawn
    unfold classify Job.ofFiles Job.blaming
    simp only [perform_run_bind, perform_run_tryCatch, perform_run_adapt]
    have asked : (read : Job Machine).run.perform machine workspace = (.ok machine, workspace) :=
      rfl
    rw [asked]
    simp only
    cases made : ((FileWork.makeDirectory (scratch.child (toString trial))).run.perform
        machine workspace).1 with
    | error failure =>
        cases failure <;> exact fun _ => rfl
    | ok value =>
        rw [show Except.mapError _ (Except.ok value) = Except.ok value from rfl]
        simp only
        rcases build_gives
            (fun role verdict =>
              ((config.oraclesOn machine).get role).opinion? machine.engines role grammar =
                some verdict)
            (fun workspace role => Oracle.classify_gives machine workspace
              ((config.oraclesOn machine).get role) role grammar
              (scratch.child (toString trial)) trial)
            ((FileWork.makeDirectory (scratch.child (toString trial))).run.perform
              machine workspace).2 with
          ⟨failure, failed, kind⟩ | ⟨verdicts, built, each⟩
        · rw [failed]
          simp only
          cases failure with
          | file failure => cases failure <;> exact fun _ => rfl
          | interrupted => exact kind
          | _ => exact fun _ => rfl
        · rw [built]
          -- The engine for LR(k) reads the canonical rendering, so that there is one.
          have rendered : ∃ text, grammar.canonical? = some text := by
            have relaxed := each .relaxed
            cases text : grammar.canonical? with
            | some found => exact ⟨found, rfl⟩
            | none =>
                have unrendered : ((config.oraclesOn machine).get .relaxed).render grammar =
                    .error .noRoot :=
                  Oracle.render_of_absent rfl text
                rw [Oracle.opinion?, unrendered] at relaxed
                cases relaxed
          obtain ⟨text, isText⟩ := rendered
          refine ⟨rfl, grammar, rfl, drawn, ?_, each⟩
          rw [isText]
          rfl

end Trial

end GrammarCorpus
