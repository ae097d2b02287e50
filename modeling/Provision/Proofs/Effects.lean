import Provision.Program
import Provision.Proofs.Presentation

/-!
# What steps change

Printing and logging tell something and change nothing else. A download launches nothing and answers
from the files alone, and a command launches at most its program. `StepCourse` lists the ways in which a
step can go, and from it follows what all steps of a run have launched.
-/

namespace Provision

/-! ## Telling -/

/-- From one world to the other, nothing has happened but that something was printed or logged. -/
structure World.OnlyTold (before after : World) : Prop where
  files : after.files = before.files
  requests : after.requests = before.requests
  launches : after.launches = before.launches

namespace World

theorem OnlyTold.refl (world : World) : world.OnlyTold world := ⟨rfl, rfl, rfl⟩

theorem OnlyTold.trans {before between after : World} (first : before.OnlyTold between)
    (second : between.OnlyTold after) : before.OnlyTold after :=
  ⟨second.files.trans first.files, second.requests.trans first.requests,
    second.launches.trans first.launches⟩

theorem only_told_foldl {α : Type} {tell : World → α → World}
    (tells : ∀ (world : World) item, world.OnlyTold (tell world item)) (items : List α) (world : World) :
    world.OnlyTold (items.foldl tell world) := by
  induction items generalizing world with
  | nil => exact .refl world
  | cons item rest ih => exact (tells world item).trans (ih (tell world item))

theorem only_told_print_error (world : World) (text : String) :
    world.OnlyTold (world.printError text) := ⟨rfl, rfl, rfl⟩

theorem only_told_display (world : World) (console : Console) (line : Console.Line) :
    world.OnlyTold (world.display console line) := by
  unfold display
  split
  · exact .refl world
  · exact ⟨rfl, rfl, rfl⟩

theorem only_told_reveal (machine : Machine) (event : Log.Event) (world : World) :
    world.OnlyTold (world.reveal machine event) := by
  unfold reveal
  split
  · split
    · exact only_told_print_error world event.line
    · exact .refl world
  · exact .refl world

theorem only_told_remark (machine : Machine) (event : Log.Event) (world : World) :
    world.OnlyTold (world.remark machine event) := by
  have revealed := only_told_reveal machine event { world with log := world.log ++ [event] }
  exact ⟨revealed.files, revealed.requests, revealed.launches⟩

theorem only_told_show_bar (world : World) (bar : Option Bar) : world.OnlyTold (world.showBar bar) :=
  ⟨rfl, rfl, rfl⟩

theorem only_told_draw_bar (machine : Machine) (world : World) :
    world.OnlyTold (world.drawBar machine) := by
  unfold drawBar
  split <;> exact ⟨rfl, rfl, rfl⟩

theorem only_told_advance_bar (machine : Machine) (world : World) (report : Nat × Nat) :
    world.OnlyTold (world.advanceBar machine report) :=
  (only_told_show_bar world _).trans (only_told_draw_bar machine _)

theorem only_told_advance_bar_all (machine : Machine) (reports : List (Nat × Nat)) (world : World) :
    world.OnlyTold (reports.foldl (advanceBar machine) world) :=
  only_told_foldl (only_told_advance_bar machine) reports world

theorem only_told_clear_bar (machine : Machine) (world : World) :
    world.OnlyTold (world.clearBar machine) :=
  ((only_told_show_bar world _).trans (only_told_draw_bar machine _)).trans (only_told_show_bar _ none)

theorem only_told_reveal_all (machine : Machine) (events : List Log.Event) (world : World) :
    world.OnlyTold (world.revealAll machine events) :=
  only_told_foldl (fun world event => only_told_reveal machine event world) events world

theorem only_told_remark_all (machine : Machine) (events : List Log.Event) (world : World) :
    world.OnlyTold (world.remarkAll machine events) :=
  only_told_foldl (fun world event => only_told_remark machine event world) events world

end World

/-! ## Downloads -/

namespace Download

theorem launches_run (machine : Machine) (url destination : String) (world : World) :
    (run machine url destination world).2.launches = world.launches := by
  unfold run receive
  generalize Http.Client.fetch machine.network url = exchange
  have told := World.only_told_reveal_all machine
    (exchange.connections.flatMap connectionRemarks)
    { world with requests := world.requests ++ exchange.requests }
  dsimp only
  split
  · exact told.launches
  · split
    · have shown (reports : List (Nat × Nat)) (world : World) :
          (reports.foldl (World.advanceBar machine) world).launches = world.launches :=
        (World.only_told_advance_bar_all machine reports world).launches
      split
      · exact (shown _ _).trans told.launches
      · exact ((World.only_told_remark machine _ _).launches.trans (shown _ _)).trans told.launches
    · exact told.launches

/-- What a download answers and the files it leaves depend on the files that it finds. Nothing of what
was told before counts, and neither does what is shown of the log. -/
theorem run_of_files (machine : Machine) (filter : Option Log.Filter) (url destination : String)
    (world : World) :
    (run { machine with filter } url destination world).1 =
        (run machine url destination { files := world.files }).1 ∧
      (run { machine with filter } url destination world).2.files =
        (run machine url destination { files := world.files }).2.files := by
  have exchange : Http.Client.fetch ({ machine with filter } : Machine).network url =
      Http.Client.fetch machine.network url := rfl
  have saved (delivery : Http.Delivery) (files : Host.FileTree) :
      save { machine with filter } url destination delivery files =
        save machine url destination delivery files := rfl
  unfold run receive
  simp only [exchange, saved, (World.only_told_reveal_all _ _ _).files]
  split
  · simp [abandon, (World.only_told_reveal_all _ _ _).files]
  · split
    · split
      · simp [abandon, (World.only_told_advance_bar_all _ _ _).files]
      · simp [(World.only_told_remark _ _ _).files, (World.only_told_advance_bar_all _ _ _).files]
    · simp [abandon, (World.only_told_reveal_all _ _ _).files]

end Download

/-! ## Steps -/

namespace Session

open Host

variable {machine : Machine} {console : Console}

theorem only_told_display_all (console : Console) (lines : List Console.Line) (world : World) :
    world.OnlyTold (displayAll console lines world) :=
  World.only_told_foldl (fun world line => world.only_told_display console line) lines world

/-- The launch of a command among the files that it finds. -/
def launchOf (machine : Machine) (command : Command) (files : FileTree) : Launch :=
  .ofCommand machine.surroundings command (Search.resolve machine.surroundings files command)

theorem resolve_told (machine : Machine) (command : Command) (world : World) :
    (resolve machine command world).1 =
        Search.resolve machine.surroundings world.files command ∧
      world.OnlyTold (resolve machine command world).2 := by
  unfold resolve Search.resolve
  cases Search.find machine.surroundings world.files command with
  | ok path => exact ⟨rfl, .refl world⟩
  | error miss => exact ⟨rfl, World.only_told_remark machine _ world⟩

/-- How a step goes in a world: its answer and the world that it leaves. One constructor for each way
in which it can end. -/
inductive StepCourse (machine : Machine) (before : World) :
    Step → Except ProvisionError Outcome → World → Prop where
  | saved {url destination : String} {file : Download.Saved} {after : World}
      (report : (Download.run machine url destination { files := before.files }).1.result = .ok file)
      (files : after.files =
        (Download.run machine url destination { files := before.files }).2.files)
      (launches : after.launches = before.launches) :
      StepCourse machine before (.download url destination)
        (.ok (.downloaded file.path file.size file.digest)) after
  | notSaved {url destination : String} {error : DownloadError} {after : World}
      (report : (Download.run machine url destination { files := before.files }).1.result =
        .error error)
      (launches : after.launches = before.launches) :
      StepCourse machine before (.download url destination) (.error (.downloadFailure error)) after
  | notStarted {command : Command} {refusal : Refusal} {after : World}
      (refused : (launchOf machine command before.files).run before.files
        machine.surroundings.directory = .error refusal)
      (launches : after.launches = before.launches) :
      StepCourse machine before (.run command) (.error (.spawn command.program refusal.text)) after
  | ended {command : Command} {trace : Trace} {after : World}
      (started : (launchOf machine command before.files).run before.files
        machine.surroundings.directory = .ok (trace, after.files))
      (launches : after.launches = before.launches ++ [launchOf machine command before.files]) :
      StepCourse machine before (.run command)
        ((concludeCommand command trace.code).map Outcome.exited) after

theorem step_course_of_command (machine : Machine) (filter : Option Log.Filter) (console : Console)
    (command : Command) (world : World) :
    StepCourse machine world (.run command)
      (perform { machine with filter } console (.run command) world).1
      (perform { machine with filter } console (.run command) world).2 := by
  have announced := world.only_told_display console (.command command.text)
  obtain ⟨found, resolved⟩ := resolve_told { machine with filter } command
    (world.display console (.command command.text))
  simp only [perform, runCommand]
  generalize resolve { machine with filter } command
    (world.display console (.command command.text)) = located at found resolved ⊢
  obtain ⟨program, told⟩ := located
  -- Nothing but telling comes before the launch, so it finds the files of the first world.
  have ready : world.OnlyTold
      (told.remark { machine with filter } (spawnRemark program command)) :=
    (announced.trans resolved).trans (World.only_told_remark _ _ told)
  have launched : Launch.ofCommand machine.surroundings command program =
      launchOf machine command world.files := by
    rw [launchOf, ← announced.files, ← found]
  simp only [launched, ready.files]
  cases ran : (launchOf machine command world.files).run world.files
      machine.surroundings.directory with
  | error refusal => exact .notStarted ran ready.launches
  | ok outcome => exact .ended ran (congrArg (· ++ _) ready.launches)

/-- Each performed step goes in one of these ways, whatever is shown of the log. -/
theorem perform_course (machine : Machine) (filter : Option Log.Filter) (console : Console)
    (step : Step) (world : World) :
    StepCourse machine world step (perform { machine with filter } console step world).1
      (perform { machine with filter } console step world).2 := by
  cases step with
  | run command => exact step_course_of_command machine filter console command world
  | download url destination =>
      have begun := (world.only_told_display console (.download url)).trans
        (World.only_told_show_bar _ (console.bar 0))
      obtain ⟨report, files⟩ := Download.run_of_files machine filter url destination
        ((world.display console (.download url)).showBar (console.bar 0))
      have launches := Download.launches_run { machine with filter } url destination
        ((world.display console (.download url)).showBar (console.bar 0))
      rw [begun.files] at report files
      rw [begun.launches] at launches
      simp only [perform]
      generalize Download.run { machine with filter } url destination
        ((world.display console (.download url)).showBar (console.bar 0)) = ran
        at report files launches ⊢
      obtain ⟨answer, after⟩ := ran
      have cleared := World.only_told_clear_bar { machine with filter } after
      cases result : answer.result with
      | error error =>
          exact .notSaved (report ▸ result) (cleared.launches.trans launches)
      | ok file =>
          have told := cleared.trans
            (World.only_told_remark { machine with filter } (savedRemark file) _)
          exact .saved (report ▸ result) (told.files.trans files) (told.launches.trans launches)

theorem only_told_rehearse (console : Console) (step : Step) (world : World) :
    world.OnlyTold (rehearse console step world) := by
  cases step with
  | download url destination =>
      exact (world.only_told_display console _).trans (World.only_told_display _ console _)
  | run command => exact world.only_told_display console _

end Session

/-! ## Runs -/

namespace Session

def runnerFor (machine : Machine) (console : Console) (dryRun : Bool) : Runner World :=
  if dryRun then rehearser machine console else performer machine console

def planned (machine : Machine) (action : Action) : Except ProvisionError Plan :=
  (planFor (Snapshot.capture machine.surroundings.bindings.entries) action).1

variable {machine : Machine} {action : Action}

theorem run_plan_told (machine : Machine) (console : Console) (snapshot : Snapshot) (dryRun : Bool)
    (plan : Plan) (world : World) :
    ∃ opened, world.OnlyTold opened ∧
      (runPlan machine console snapshot dryRun plan world).1 =
        (plan.execute (runnerFor machine console dryRun) opened).1 ∧
      (plan.execute (runnerFor machine console dryRun) opened).2.OnlyTold
        (runPlan machine console snapshot dryRun plan world).2 := by
  refine ⟨_, only_told_display_all console (opening plan snapshot dryRun) world, ?_⟩
  unfold runPlan runnerFor
  dsimp only
  generalize plan.execute _ _ = ran
  obtain ⟨result, after⟩ := ran
  cases result with
  | error error => exact ⟨rfl, .refl after⟩
  | ok outcomes => exact ⟨rfl, after.only_told_display console _⟩

def planningRemarks (machine : Machine) (action : Action) : List Log.Event :=
  (planFor (Snapshot.capture machine.surroundings.bindings.entries) action).2

/-- What an action answers to the run of its plan: a failure in its own context. -/
def concludePlan (action : Action) (ran : Except ProvisionError (List Outcome) × World) :
    Except Failure Unit × World :=
  match ran with
  | (.error error, after) => (.error (({ cause := error } : Failure).wrap (context action)), after)
  | (.ok _, after) => (.ok (), after)

theorem act_eq_of_refused {error : ProvisionError} (refused : planned machine action = .error error)
    (filter : Option Log.Filter) (console : Console) (dryRun : Bool) (world : World) :
    act { machine with filter } console action dryRun world =
      (.error { cause := error },
        world.remarkAll { machine with filter } (planningRemarks machine action)) := by
  unfold planned at refused
  unfold act planningRemarks
  dsimp only
  generalize planFor (Snapshot.capture machine.surroundings.bindings.entries) action = settled
    at refused ⊢
  obtain ⟨result, remarks⟩ := settled
  subst refused
  rfl

theorem act_eq_of_planned {plan : Plan} (settled : planned machine action = .ok plan)
    (filter : Option Log.Filter) (console : Console) (dryRun : Bool) (world : World) :
    act { machine with filter } console action dryRun world =
      concludePlan action (runPlan { machine with filter } console
        (Snapshot.capture machine.surroundings.bindings.entries) dryRun plan
        (world.remarkAll { machine with filter } (planningRemarks machine action))) := by
  unfold planned at settled
  unfold act planningRemarks
  dsimp only
  generalize planFor (Snapshot.capture machine.surroundings.bindings.entries) action = answered
    at settled ⊢
  obtain ⟨result, remarks⟩ := answered
  subst settled
  rfl

/-- An action that cannot be planned fails with the error of its plan. -/
theorem act_of_refused {error : ProvisionError} (refused : planned machine action = .error error)
    (filter : Option Log.Filter) (console : Console) (dryRun : Bool) (world : World) :
    (act { machine with filter } console action dryRun world).1 = .error { cause := error } ∧
      world.OnlyTold (act { machine with filter } console action dryRun world).2 := by
  rw [act_eq_of_refused refused]
  exact ⟨rfl, World.only_told_remark_all _ _ world⟩

/-- An action that is planned fails with the error of its steps, in the action's own context. All that
it does apart from its steps is to tell something. -/
theorem act_of_planned {plan : Plan} (settled : planned machine action = .ok plan)
    (filter : Option Log.Filter) (console : Console) (dryRun : Bool) (world : World) :
    ∃ opened, world.OnlyTold opened ∧
      (act { machine with filter } console action dryRun world).1 =
        (match (plan.execute (runnerFor { machine with filter } console dryRun) opened).1 with
          | .ok _ => .ok ()
          | .error error => .error (({ cause := error } : Failure).wrap (context action))) ∧
      (plan.execute (runnerFor { machine with filter } console dryRun) opened).2.OnlyTold
        (act { machine with filter } console action dryRun world).2 := by
  rw [act_eq_of_planned settled]
  have ready := World.only_told_remark_all { machine with filter } (planningRemarks machine action)
    world
  obtain ⟨opened, told, same, later⟩ := run_plan_told { machine with filter } console
    (Snapshot.capture machine.surroundings.bindings.entries) dryRun plan
    (world.remarkAll { machine with filter } (planningRemarks machine action))
  refine ⟨opened, ready.trans told, ?_⟩
  rw [← same]
  generalize runPlan _ _ _ _ _ _ = ran at later ⊢
  obtain ⟨outcomes, after⟩ := ran
  cases outcomes <;> exact ⟨rfl, later⟩

end Session

namespace Program

/-- The status that the answer of an action leads to. -/
def statusOf (answer : Except Failure Unit) : Int :=
  match answer with
  | .ok _ => 0
  | .error failure => failure.exitCode

/-- A run performs its action, and apart from that it only tells something. -/
theorem run_of_parsed (machine : Machine) {arguments : List String}
    {invocation : Arguments.Invocation} (world : World)
    (parsed : Arguments.parse arguments = .ok invocation) :
    ∃ filter begun, world.OnlyTold begun ∧
      (run machine arguments world).1 = statusOf (Session.act { machine with filter }
        (console invocation) invocation.action invocation.dryRun begun).1 ∧
      (Session.act { machine with filter } (console invocation) invocation.action invocation.dryRun
        begun).2.OnlyTold (run machine arguments world).2 := by
  refine ⟨some (Log.Filter.ofText (directives machine.surroundings) (console invocation).level), _,
    world.only_told_print_error (Log.Filter.complaints (directives machine.surroundings)), ?_⟩
  simp only [run, parsed, invoke, logging]
  generalize Session.act _ _ _ _ _ = acted
  obtain ⟨result, after⟩ := acted
  cases result with
  | error failure => exact ⟨rfl, after.only_told_print_error failure.report⟩
  | ok done => exact ⟨rfl, .refl after⟩

end Program

/-! ## Launches -/

/-- All that was launched from one world to the other was launched for commands of the given steps. -/
def World.LaunchedFor (surroundings : Host.Surroundings) (steps : List Step)
    (before after : World) : Prop :=
  ∃ started, after.launches = before.launches ++ started ∧
    ∀ launch ∈ started, ∃ command program, Step.run command ∈ steps ∧
      launch = Host.Launch.ofCommand surroundings command program

namespace World

variable {surroundings : Host.Surroundings} {steps : List Step} {before between after : World}

theorem LaunchedFor.of_same (same : after.launches = before.launches) :
    before.LaunchedFor surroundings steps after :=
  ⟨[], by rw [same, List.append_nil], by simp⟩

theorem LaunchedFor.trans (first : before.LaunchedFor surroundings steps between)
    (second : between.LaunchedFor surroundings steps after) :
    before.LaunchedFor surroundings steps after := by
  obtain ⟨started, launches, each⟩ := first
  obtain ⟨later, laterLaunches, eachLater⟩ := second
  refine ⟨started ++ later, by rw [laterLaunches, launches, List.append_assoc], ?_⟩
  intro launch member
  rcases List.mem_append.1 member with first | second
  · exact each launch first
  · exact eachLater launch second

end World

/-- A step launches the program of its own command, or nothing. -/
theorem Session.StepCourse.launched {machine : Machine} {before after : World} {step : Step}
    {answer : Except ProvisionError Outcome} (course : StepCourse machine before step answer after)
    {steps : List Step} (member : step ∈ steps) :
    before.LaunchedFor machine.surroundings steps after := by
  cases course with
  | saved _ _ launches => exact .of_same launches
  | notSaved _ launches => exact .of_same launches
  | notStarted _ launches => exact .of_same launches
  | ended _ launches =>
      refine ⟨_, launches, ?_⟩
      intro launch isLaunch
      exact ⟨_, _, member, List.mem_singleton.1 isLaunch⟩

theorem Session.launched_execute (machine : Machine) (filter : Option Log.Filter)
    (console : Console) (dryRun : Bool) (plan : Plan) (world : World) :
    world.LaunchedFor machine.surroundings plan.steps
      (plan.execute (runnerFor { machine with filter } console dryRun) world).2 := by
  refine (Plan.execute_course plan _ world).related (fun _ => .of_same rfl) .trans ?_ ?_
  · intro event world
    cases dryRun <;> exact .of_same (World.only_told_remark _ event world).launches
  · intro step member world
    cases dryRun with
    | true => exact .of_same (only_told_rehearse console step world).launches
    | false => exact (perform_course machine filter console step world).launched member

/-- A run launches nothing but programs of commands that its plan runs. -/
theorem Program.launched_run {machine : Machine} {arguments : List String}
    {invocation : Arguments.Invocation} {plan : Plan} (world : World)
    (parsed : Arguments.parse arguments = .ok invocation)
    (settled : Session.planned machine invocation.action = .ok plan) :
    world.LaunchedFor machine.surroundings plan.steps (run machine arguments world).2 := by
  obtain ⟨filter, begun, told, _, ended⟩ := run_of_parsed machine world parsed
  obtain ⟨opened, announced, _, concluded⟩ := Session.act_of_planned settled filter
    (console invocation) invocation.dryRun begun
  have executed := Session.launched_execute machine filter (console invocation) invocation.dryRun
    plan opened
  have before : world.LaunchedFor machine.surroundings plan.steps opened :=
    .of_same (told.trans announced).launches
  exact (before.trans executed).trans (.of_same (concluded.trans ended).launches)

end Provision
