import Provision.Proofs.ExitStatus
import Provision.Proofs.Transcript

/-!
# Plans that are refused

Planning comes before everything else: a run whose plan is refused only reports the refusal. A run that
has a plan can still fail, but only with an error of one of its steps, and none of these is an error of
the settings or of the releases.
-/

namespace Provision

/-! ## Errors of steps -/

/-- The errors of steps: a file cannot be saved, or a program cannot be started or fails. -/
def ProvisionError.IsOfExecution : ProvisionError → Prop
  | .downloadFailure _ | .installFailure _ _ | .commandFailure _ _ | .spawn _ _ => True
  | _ => False

theorem ProvisionError.IsOfExecution.not_planning {error : ProvisionError}
    (execution : error.IsOfExecution) : ¬ error.IsOfPlanning := by
  cases error <;> first | exact id | cases execution

theorem Command.failure_is_of_execution (command : Command) (code : Option Int) :
    (command.failure code).IsOfExecution := by
  unfold failure
  cases command.kind <;> trivial

namespace Session

variable {machine : Machine} {filter : Option Log.Filter} {console : Console}

theorem StepCourse.error_is_of_execution {before after : World} {step : Step}
    {answer : Except ProvisionError Outcome} (course : StepCourse machine before step answer after)
    {error : ProvisionError} (failed : answer = .error error) : error.IsOfExecution := by
  cases course with
  | saved => cases failed
  | notSaved =>
      cases failed
      trivial
  | notStarted =>
      cases failed
      trivial
  | @ended command trace after started launches =>
      have concluded := error_of_map failed
      rw [conclude_command_eq] at concluded
      split at concluded
      · cases concluded
      · cases concluded
        exact command.failure_is_of_execution trace.code

/-- The error of a plan is that of one of its steps. -/
theorem error_of_course {total number : Nat} {steps : List Step} {world final : World}
    {record : List (Presentation World)} {result : Except ProvisionError (List Outcome)}
    (course : Plan.Course (performer { machine with filter } console) total number steps world record
      result final)
    {error : ProvisionError} (failed : result = .error error) : error.IsOfExecution := by
  induction course with
  | finished => cases failed
  | failed begun answered =>
      cases failed
      exact (step_course_of_answered answered).error_is_of_execution rfl
  | advanced begun answered later ih => exact ih (error_of_map failed)

theorem error_of_execute (machine : Machine) (filter : Option Log.Filter) (console : Console)
    (dryRun : Bool) (plan : Plan) (world : World) {error : ProvisionError}
    (failed : (plan.execute (runnerFor { machine with filter } console dryRun) world).1 =
      .error error) : error.IsOfExecution := by
  cases dryRun with
  | false =>
      exact error_of_course
        (Plan.execute_course plan (performer { machine with filter } console) world) failed
  | true =>
      obtain ⟨outcomes, succeeds⟩ := rehearsal_succeeds
        (Plan.execute_course plan (rehearser { machine with filter } console) world)
      have impossible : Except.ok outcomes = Except.error error := succeeds.symm.trans failed
      cases impossible

/-- An action that is planned fails only with an error of its steps. -/
theorem cause_of_act {action : Action} {plan : Plan} (settled : planned machine action = .ok plan)
    (filter : Option Log.Filter) (console : Console) (dryRun : Bool) (world : World)
    {failure : Failure}
    (failed : (act { machine with filter } console action dryRun world).1 = .error failure) :
    failure.cause.IsOfExecution := by
  obtain ⟨opened, _, answer, _⟩ := act_of_planned settled filter console dryRun world
  rw [answer] at failed
  split at failed
  · cases failed
  · next error execution =>
      cases failed
      exact error_of_execute machine filter console dryRun plan opened execution

end Session

/-! ## What the error stream receives -/

/-- Whether the error stream shows an event of the log. -/
def Machine.shows (machine : Machine) (event : Log.Event) : Bool :=
  (machine.filter.map (·.admits event)).getD false

def Machine.shownLog (machine : Machine) (events : List Log.Event) : String :=
  String.join ((events.filter machine.shows).map Log.Event.line)

namespace World

theorem error_output_reveal (machine : Machine) (event : Log.Event) (world : World) :
    (world.reveal machine event).errorOutput =
      world.errorOutput ++ (if machine.shows event then event.line else "").toByteArray := by
  unfold reveal Machine.shows
  cases machine.filter with
  | none => simp
  | some filter =>
      simp only [Option.map_some, Option.getD_some]
      split <;> simp [printError]

theorem error_output_remark_all (machine : Machine) (events : List Log.Event) (world : World) :
    (world.remarkAll machine events).errorOutput =
      world.errorOutput ++ (machine.shownLog events).toByteArray := by
  unfold remarkAll Machine.shownLog
  induction events generalizing world with
  | nil => simp
  | cons event rest ih =>
      have first : (world.remark machine event).errorOutput =
          world.errorOutput ++ (if machine.shows event then event.line else "").toByteArray :=
        error_output_reveal machine event _
      rw [List.foldl_cons, ih, first, List.filter_cons]
      split
      · rw [List.map_cons, String.join_cons, String.toByteArray_append, ByteArray.append_assoc]
      · simp

end World

/-- Without directives, the default level shows no event that is only for information. -/
theorem Machine.shown_log_by_default (machine : Machine) {events : List Log.Event}
    (informal : ∀ event ∈ events, event.level = .info) :
    ({ machine with filter := some (Log.Filter.ofText "" .warn) } : Machine).shownLog events =
      "" := by
  have only : Log.Filter.ofText "" .warn = ⟨[{ verbosity := 2 }]⟩ := by decide +kernel
  have hidden : events.filter
      ({ machine with filter := some (Log.Filter.ofText "" .warn) } : Machine).shows = [] := by
    refine List.filter_eq_nil_iff.2 ?_
    intro event member
    have level := informal event member
    simp [shows, only, Log.Filter.admits, Log.Filter.deciding, Log.Directive.concerns, level,
      Log.Level.verbosity]
  rw [shownLog, hidden]
  rfl

/-! ## Refused plans -/

/-- Only where the library is looked for among the installed programs is there a warning, and then the
plan is not refused. -/
theorem TestRun.level_of_remark {snapshot : Snapshot} {lookup : Lookup} {error : ProvisionError}
    (refused : plan snapshot lookup.find = .error error) :
    ∀ event ∈ remarks snapshot lookup, event.level = .info := by
  intro event member
  have unsettled : libraryDelta snapshot lookup.find = .error error :=
    error_of_map (error_of_map refused)
  unfold remarks at member
  rw [unsettled, List.append_nil] at member
  unfold libraryRemarks at member
  split at member
  · cases member
  · split at member
    · cases List.mem_singleton.1 member
      rfl
    · cases member
  · next direct =>
      simp only [libraryDelta, direct] at unsettled
      cases unsettled

namespace Session

variable {machine : Machine} {action : Action} {error : ProvisionError}

/-- What is remarked before a plan is refused is only for information. -/
theorem level_of_planning_remark (refused : planned machine action = .error error) :
    ∀ event ∈ planningRemarks machine action, event.level = .info := by
  unfold planned at refused
  unfold planningRemarks
  cases action with
  | installToolchain => exact List.forall_mem_map.2 fun _ _ => rfl
  | installLibrary =>
      simp only [planFor]
      split
      · simp
      · exact List.forall_mem_map.2 fun _ _ => rfl
  | runTests => exact TestRun.level_of_remark refused

end Session

namespace Program

variable {machine : Machine} {arguments : List String} {invocation : Arguments.Invocation}

def complained (machine : Machine) (world : World) : World :=
  world.printError (Log.Filter.complaints (directives machine.surroundings))

/-- What the action of a run answers, and the world that it leaves. -/
def acted (machine : Machine) (invocation : Arguments.Invocation) (world : World) :
    Except Failure Unit × World :=
  Session.act (logging machine (console invocation)) (console invocation) invocation.action
    invocation.dryRun (complained machine world)

theorem run_eq_of_parsed (machine : Machine) (world : World)
    (parsed : Arguments.parse arguments = .ok invocation) :
    run machine arguments world = match acted machine invocation world with
      | (.ok (), after) => (0, after)
      | (.error failure, after) => (failure.exitCode, after.printError failure.report) := by
  simp only [run, parsed]
  rfl

theorem report_of_refused {error : ProvisionError} (planning : error.IsOfPlanning) :
    ({ cause := error } : Failure).report = s!"✗ {error.message}\n" := by
  have inner : error.innerMessages = [] := by
    cases error <;> first | rfl | cases planning
  simp [Failure.report, Failure.message, Failure.chain, inner]

section Refused

variable {error : ProvisionError}

/-- The world in which a run with a refused plan ends. -/
def reported (machine : Machine) (invocation : Arguments.Invocation) (error : ProvisionError)
    (world : World) : World :=
  ((complained machine world).remarkAll (logging machine (console invocation))
    (Session.planningRemarks machine invocation.action)).printError s!"✗ {error.message}\n"

theorem run_eq_of_refused (world : World) (parsed : Arguments.parse arguments = .ok invocation)
    (refused : Session.planned machine invocation.action = .error error) :
    run machine arguments world = (1, reported machine invocation error world) := by
  have planning : error.IsOfPlanning := Session.error_of_plan_for refused
  have answered : acted machine invocation world =
      (.error { cause := error }, (complained machine world).remarkAll
        (logging machine (console invocation))
        (Session.planningRemarks machine invocation.action)) :=
    Session.act_eq_of_refused refused _ _ _ _
  have status : ({ cause := error } : Failure).exitCode = 1 := planning.exit_code
  simp only [run_eq_of_parsed machine world parsed, answered, report_of_refused planning, status,
    reported]

theorem only_told_reported (error : ProvisionError) (world : World) :
    world.OnlyTold (reported machine invocation error world) := by
  have begun := world.only_told_print_error
    (Log.Filter.complaints (directives machine.surroundings))
  have remarked := World.only_told_remark_all (logging machine (console invocation))
    (Session.planningRemarks machine invocation.action) (complained machine world)
  exact (begun.trans remarked).trans (World.only_told_print_error _ _)

theorem error_output_reported (error : ProvisionError) (world : World) :
    (reported machine invocation error world).errorOutput = world.errorOutput ++
      (Log.Filter.complaints (directives machine.surroundings) ++
        (logging machine (console invocation)).shownLog
          (Session.planningRemarks machine invocation.action) ++
        s!"✗ {error.message}\n").toByteArray := by
  simp only [reported, World.printError, World.error_output_remark_all, complained,
    String.toByteArray_append, ByteArray.append_assoc]

/-- By default the error stream receives the refusal alone. -/
theorem error_output_of_refused_by_default (world : World)
    (refused : Session.planned machine invocation.action = .error error)
    (undirected : directives machine.surroundings = "") (quiet : invocation.verbosity = 0) :
    (reported machine invocation error world).errorOutput =
      world.errorOutput ++ s!"✗ {error.message}\n".toByteArray := by
  have noComplaints : Log.Filter.complaints "" = "" := by decide +kernel
  have noLog : (logging machine (console invocation)).shownLog
      (Session.planningRemarks machine invocation.action) = "" := by
    have level : (console invocation).level = .warn := by simp [console, Console.level, quiet]
    rw [logging, undirected, level]
    exact machine.shown_log_by_default (Session.level_of_planning_remark refused)
  rw [error_output_reported, undirected, noComplaints, noLog, String.empty_append,
    String.empty_append]

end Refused

/-- A run whose plan is refused changes no file, starts no program, sends no request, writes nothing to
the output stream and ends with one. The error stream receives the refusal, and before it at most what
is said about the log's directives and what they show of the log; by default that is nothing. A run that
has a plan succeeds, or reports an error of one of its steps, never one of planning. -/
theorem run_refused_or_executed (world : World)
    (parsed : Arguments.parse arguments = .ok invocation) :
    let ran := run machine arguments world
    (∀ error, Session.planned machine invocation.action = .error error →
        ran.1 = 1 ∧ world.OnlyTold ran.2 ∧ ran.2.written = world.written ∧
          ran.2.errorOutput = world.errorOutput ++
            (Log.Filter.complaints (directives machine.surroundings) ++
              (logging machine (console invocation)).shownLog
                (Session.planningRemarks machine invocation.action) ++
              s!"✗ {error.message}\n").toByteArray ∧
          (directives machine.surroundings = "" → invocation.verbosity = 0 →
            ran.2.errorOutput = world.errorOutput ++ s!"✗ {error.message}\n".toByteArray)) ∧
      ∀ plan, Session.planned machine invocation.action = .ok plan →
        ran.1 = 0 ∨ ∃ failure, (acted machine invocation world).1 = .error failure ∧
          failure.cause.IsOfExecution ∧ ¬ failure.cause.IsOfPlanning ∧
          ran.1 = failure.exitCode ∧
          ran.2 = (acted machine invocation world).2.printError failure.report := by
  intro ran
  constructor
  · intro error refused
    have ends : ran = (1, reported machine invocation error world) :=
      run_eq_of_refused world parsed refused
    rw [ends]
    refine ⟨rfl, only_told_reported error world, ?_, error_output_reported error world, ?_⟩
    · exact World.written_remark_all (logging machine (console invocation)) _
        (complained machine world)
    · exact error_output_of_refused_by_default world refused
  · intro plan settled
    have runs : ran = _ := run_eq_of_parsed machine world parsed
    rw [runs]
    cases answered : acted machine invocation world with
    | mk result after =>
        cases result with
        | ok done => exact .inl rfl
        | error failure =>
            have execution := Session.cause_of_act settled _ _ _ _ (congrArg Prod.fst answered)
            exact .inr ⟨failure, rfl, execution, execution.not_planning, rfl, rfl⟩

theorem refusal_without_source :
    let ran := run bareMachine ["install-library", "--dry-run"] { files := ⟨.empty⟩ }
    let failed := run bareMachine ["run-tests"] (buildingWorld 101)
    let uninstalled := run connectedMachine ["install-toolchain"] (installingWorld 1603)
    (ran.1 = 1 ∧ ran.2.written = [] ∧
        ran.2.errorOutput =
          "✗ Missing configuration: environment variable H5_SOURCE is not set\n".toByteArray) ∧
      (∃ failure : Failure, failure.cause.IsOfExecution ∧ failed.1 = failure.exitCode) ∧
      ∃ failure : Failure, failure.cause.IsOfExecution ∧ uninstalled.1 = failure.exitCode := by
  intro ran failed uninstalled
  refine ⟨?_, ?_, ?_⟩
  · have parsed : Arguments.parse ["install-library", "--dry-run"] =
        .ok { action := .installLibrary, dryRun := true } := rfl
    have refused : Session.planned bareMachine .installLibrary =
        .error (.missingConfiguration "H5_SOURCE") := rfl
    have undirected : directives bareMachine.surroundings = "" := rfl
    obtain ⟨status, _, silent, _, told⟩ :=
      (run_refused_or_executed { files := ⟨.empty⟩ } parsed).1 _ refused
    exact ⟨status, silent, (told undirected rfl).trans (by decide +kernel)⟩
  · have parsed : Arguments.parse ["run-tests"] = .ok { action := .runTests } := rfl
    have settled : Session.planned bareMachine .runTests =
        .ok (TestRun.planWith (Snapshot.capture bareMachine.surroundings.bindings.entries) .empty) :=
      rfl
    rcases (run_refused_or_executed (buildingWorld 101) parsed).2 _ settled with
      succeeded | ⟨failure, _, execution, _, code, _⟩
    · have fails : failed.1 = 101 := by decide +kernel
      have impossible : (101 : Int) = 0 := fails.symm.trans succeeded
      cases impossible
    · exact ⟨failure, execution, code⟩
  · have parsed : Arguments.parse ["install-toolchain"] = .ok { action := .installToolchain } := rfl
    have settled : Session.planned connectedMachine .installToolchain =
        .ok (Toolchain.planFor "stable") := rfl
    rcases (run_refused_or_executed (installingWorld 1603) parsed).2 _ settled with
      succeeded | ⟨failure, _, execution, _, code, _⟩
    · have fails : uninstalled.1 = 67 := by decide +kernel
      have impossible : (67 : Int) = 0 := fails.symm.trans succeeded
      cases impossible
    · exact ⟨failure, execution, code⟩

end Program

end Provision
