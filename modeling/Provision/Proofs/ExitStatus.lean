import Provision.Proofs.Mishaps
import Provision.Proofs.Planning

/-!
# The status of a run

The first mishap of a plan's steps settles the status of a run. It is carried through the error of the
command, the run of the plan, the context of the action and the report, and none of them turns it into
another.
-/

namespace Provision

namespace Session

open Host

variable {machine : Machine} {filter : Option Log.Filter} {console : Console}

theorem rehearsal_succeeds {total number : Nat} {steps : List Step} {world final : World}
    {record : List (Presentation World)} {result : Except ProvisionError (List Outcome)}
    (course : Plan.Course (rehearser machine console) total number steps world record result final) :
    ∃ outcomes, result = .ok outcomes := by
  induction course with
  | finished => exact ⟨[], rfl⟩
  | failed begun answered => cases answered
  | @advanced _ _ _ _ _ _ _ outcome _ _ begun answered later ih =>
      obtain ⟨outcomes, rfl⟩ := ih
      exact ⟨outcome :: outcomes, rfl⟩

/-- How a run of an action ends: one constructor for each reason of its status. -/
inductive Ending (machine : Machine) (action : Action) (dryRun : Bool) (files : FileTree) :
    Int → Prop where
  | refused {error : ProvisionError} (settled : planned machine action = .error error) :
      Ending machine action dryRun files 1
  | succeeded {plan : Plan} (settled : planned machine action = .ok plan)
      (clean : dryRun = true ∨ firstMishap? machine plan.steps files = none) :
      Ending machine action dryRun files 0
  | failed {plan : Plan} {mishap : Mishap} (settled : planned machine action = .ok plan)
      (performed : dryRun = false)
      (first : firstMishap? machine plan.steps files = some mishap) :
      Ending machine action dryRun files mishap.status

theorem execute_ends (machine : Machine) (filter : Option Log.Filter) (console : Console)
    (dryRun : Bool) (plan : Plan) (world : World) :
    (∃ outcomes,
        (plan.execute (runnerFor { machine with filter } console dryRun) world).1 = .ok outcomes ∧
          (dryRun = true ∨ firstMishap? machine plan.steps world.files = none)) ∨
      ∃ error mishap,
        (plan.execute (runnerFor { machine with filter } console dryRun) world).1 = .error error ∧
          dryRun = false ∧ firstMishap? machine plan.steps world.files = some mishap ∧
          error.exitCode = mishap.status := by
  cases dryRun with
  | true =>
      obtain ⟨outcomes, succeeds⟩ := rehearsal_succeeds
        (Plan.execute_course plan (rehearser { machine with filter } console) world)
      exact .inl ⟨outcomes, succeeds, .inl rfl⟩
  | false =>
      rcases mishap_of_course
          (Plan.execute_course plan (performer { machine with filter } console) world) with
        ⟨clean, outcomes, succeeds⟩ | ⟨error, mishap, first, fails, status⟩
      · exact .inl ⟨outcomes, succeeds, .inr clean⟩
      · exact .inr ⟨error, mishap, fails, rfl, first, status⟩

theorem act_ends (machine : Machine) (filter : Option Log.Filter) (console : Console)
    (action : Action) (dryRun : Bool) (world : World) :
    Ending machine action dryRun world.files
      (Program.statusOf (act { machine with filter } console action dryRun world).1) := by
  cases settled : planned machine action with
  | error error =>
      have status : error.exitCode = 1 := (error_of_plan_for settled).exit_code
      have ends : Program.statusOf (.error { cause := error }) = 1 := status
      rw [(act_of_refused settled filter console dryRun world).1, ends]
      exact .refused settled
  | ok plan =>
      obtain ⟨opened, told, answer, _⟩ := act_of_planned settled filter console dryRun world
      rw [answer]
      rcases execute_ends machine filter console dryRun plan opened with
        ⟨outcomes, succeeds, clean⟩ | ⟨error, mishap, fails, performed, first, status⟩
      · rw [told.files] at clean
        rw [succeeds]
        exact .succeeded settled clean
      · rw [told.files] at first
        have ends : Program.statusOf (.error (({ cause := error } : Failure).wrap
            (context action))) = mishap.status := status
        rw [fails]
        dsimp only
        rw [ends]
        exact .failed settled performed first

namespace Ending

variable {action : Action} {dryRun : Bool} {files : FileTree} {status : Int}

theorem zero_iff (ending : Ending machine action dryRun files status) :
    status = 0 ↔ ∃ plan,
      planned machine action = .ok plan ∧
        (dryRun = true ∨ firstMishap? machine plan.steps files = none) := by
  constructor
  · intro zero
    cases ending with
    | refused => cases zero
    | succeeded settled clean => exact ⟨_, settled, clean⟩
    | failed _ _ first => exact absurd zero (first_mishap_told first).1
  · rintro ⟨plan, settled, clean⟩
    cases ending with
    | refused refused =>
        rw [settled] at refused
        cases refused
    | succeeded => rfl
    | failed other performed first =>
        rw [settled] at other
        cases other
        rcases clean with dry | none
        · rw [dry] at performed
          cases performed
        · rw [none] at first
          cases first

theorem eq_of_mishap {plan : Plan} {mishap : Mishap}
    (ending : Ending machine action dryRun files status)
    (settled : planned machine action = .ok plan)
    (performed : dryRun = false) (first : firstMishap? machine plan.steps files = some mishap) :
    status = mishap.status := by
  cases ending with
  | refused refused =>
      rw [settled] at refused
      cases refused
  | succeeded other clean =>
      rw [settled] at other
      cases other
      rw [performed, first] at clean
      simp at clean
  | failed other _ earlier =>
      rw [settled] at other
      cases other
      rw [first] at earlier
      cases earlier
      rfl

theorem eq_one_of_refused {error : ProvisionError}
    (ending : Ending machine action dryRun files status)
    (refused : planned machine action = .error error) : status = 1 := by
  cases ending with
  | refused => rfl
  | succeeded settled _ =>
      rw [settled] at refused
      cases refused
  | failed settled _ _ =>
      rw [settled] at refused
      cases refused

theorem in_range (ending : Ending machine action dryRun files status) :
    0 ≤ status ∧ status < 256 := by
  cases ending with
  | refused => decide
  | succeeded => decide
  | failed _ _ first => exact (first_mishap_told first).2

end Ending

end Session

theorem Program.run_ends {machine : Machine} {arguments : List String}
    {invocation : Arguments.Invocation} (world : World)
    (parsed : Arguments.parse arguments = .ok invocation) :
    Session.Ending machine invocation.action invocation.dryRun world.files
      (run machine arguments world).1 := by
  obtain ⟨filter, begun, told, status, _⟩ := run_of_parsed machine world parsed
  rw [status, ← told.files]
  exact Session.act_ends machine filter (console invocation) invocation.action invocation.dryRun begun

theorem Failure.cause_of_contexts (failure : Failure) (contexts : List String) :
    (contexts.foldl Failure.wrap failure).cause = failure.cause := by
  induction contexts generalizing failure with
  | nil => rfl
  | cons context rest ih => exact ih (failure.wrap context)

/-- A run succeeds exactly if it is planned and either only shown or performed without a mishap. The
first mishap settles the status of any other planned run: the code of the process that failed, and one
if there is no such code. A run that cannot be planned ends with one. Every status is one that the
system can tell as it is, and contexts around a failure leave its status alone, which is not zero. -/
theorem Program.status_tells_first_mishap {machine : Machine} {arguments : List String}
    {invocation : Arguments.Invocation} (world : World)
    (parsed : Arguments.parse arguments = .ok invocation) :
    let planned := Session.planned machine invocation.action
    let status := (run machine arguments world).1
    (status = 0 ↔ ∃ plan, planned = .ok plan ∧
        (invocation.dryRun = true ∨
          Session.firstMishap? machine plan.steps world.files = none)) ∧
      (∀ plan mishap, planned = .ok plan → invocation.dryRun = false →
        Session.firstMishap? machine plan.steps world.files = some mishap →
          status ≠ 0 ∧
            status = match mishap with
              | .exited code => code
              | .notSaved | .notStarted | .signalled => 1) ∧
      (∀ error, planned = .error error → status = 1) ∧
      (0 ≤ status ∧ status < 256) ∧
      ∀ (failure : Failure) (contexts : List String),
        (contexts.foldl Failure.wrap failure).exitCode = failure.exitCode ∧
          failure.exitCode ≠ 0 := by
  intro planned status
  have ends : Session.Ending machine invocation.action invocation.dryRun world.files status :=
    run_ends world parsed
  refine ⟨ends.zero_iff, ?_, fun error refused => ends.eq_one_of_refused refused, ends.in_range, ?_⟩
  · intro plan mishap settled performed first
    have same : status = mishap.status := ends.eq_of_mishap settled performed first
    refine ⟨?_, same.trans ?_⟩
    · rw [same]
      exact (Session.first_mishap_told first).1
    · cases mishap <;> rfl
  · intro failure contexts
    exact ⟨congrArg ProvisionError.exitCode (failure.cause_of_contexts contexts),
      failure.cause.exit_code_ne_zero⟩

def bareMachine : Machine where
  surroundings := { bindings := .empty, directory := [] }

/-- A world with nothing but a build tool that ends with the given code. -/
def buildingWorld (code : Int) : World where
  files :=
    (Host.FileTree.leadingTo [Utf8.encode "bin"]).put [Utf8.encode "bin", Utf8.encode "cargo"]
      (.program (Host.Script.conduct { code }))

/-- A world with nothing but a build tool that builds well, and whose tests end with the given code. -/
def testingWorld (code : Int) : World where
  files :=
    (Host.FileTree.leadingTo [Utf8.encode "bin"]).put [Utf8.encode "bin", Utf8.encode "cargo"]
      (.program (.reacting fun call =>
        if call.arguments.head? = some (Utf8.encode "test") then { code := some code } else {}))

/-- The server of the toolchain, which is reached with encryption. -/
def toolchainServer : Http.Peer where
  address := "static.rust-lang.org:443"
  isSecure := true
  answer? _ _ :=
    some { head := { knowsChunks := true, status := 200, headers := [] }
           delivery := { chunks := ["MZ".toByteArray], announced := some 2 } }

def connectedMachine : Machine where
  surroundings :=
    { bindings := .ofPairs [(Utf8.encode Variable.channel, Utf8.encode "stable")], directory := [] }
  peers := [toolchainServer]

/-- A world with nothing but an installer. If its code is zero it leaves the tools of the toolchain. -/
def installingWorld (code : Int) : World where
  files :=
    (Host.FileTree.leadingTo [Utf8.encode "bin"]).put [Utf8.encode "bin", Utf8.encode "msiexec"]
      (.program (.reacting fun _ =>
        if code = 0 then
          { changes := ["rustc", "cargo"].map fun tool =>
              .program (Utf8.encode ("/bin/" ++ Toolchain.installedTool tool))
                (Host.Script.conduct {}) }
        else { code := some code }))

theorem status_of_failing_commands :
    (Arguments.parse ["run-tests"] = .ok { action := .runTests } ∧
        (Program.run bareMachine ["run-tests"] (testingWorld 101)).1 = 101) ∧
      Arguments.parse ["install-toolchain"] = .ok { action := .installToolchain } ∧
        (Program.run connectedMachine ["install-toolchain"] (installingWorld 1603)).1 = 67 ∧
        (Program.run connectedMachine ["install-toolchain"] (installingWorld 0)).1 = 0 := by
  constructor
  · have parsed : Arguments.parse ["run-tests"] = .ok { action := .runTests } := rfl
    have settled : Session.planned bareMachine .runTests =
        .ok (TestRun.planWith (Snapshot.capture bareMachine.surroundings.bindings.entries) .empty) :=
      rfl
    have first : Session.firstMishap? bareMachine
        (TestRun.planWith (Snapshot.capture bareMachine.surroundings.bindings.entries) .empty).steps
        (testingWorld 101).files = some (.exited 101) := by decide +kernel
    obtain ⟨_, fails, _⟩ := Program.status_tells_first_mishap (testingWorld 101) parsed
    exact ⟨parsed, (fails _ _ settled rfl first).2⟩
  · have parsed : Arguments.parse ["install-toolchain"] = .ok { action := .installToolchain } := rfl
    have settled : Session.planned connectedMachine .installToolchain =
        .ok (Toolchain.planFor "stable") := rfl
    -- The system tells only the last byte of the installer's code.
    have first : Session.firstMishap? connectedMachine (Toolchain.planFor "stable").steps
        (installingWorld 1603).files = some (.exited 67) := by decide +kernel
    have clean : Session.firstMishap? connectedMachine (Toolchain.planFor "stable").steps
        (installingWorld 0).files = none := by decide +kernel
    obtain ⟨_, fails, _⟩ := Program.status_tells_first_mishap (installingWorld 1603) parsed
    obtain ⟨succeeds, _⟩ := Program.status_tells_first_mishap (installingWorld 0) parsed
    exact ⟨parsed, (fails _ _ settled rfl first).2, succeeds.2 ⟨_, settled, .inr clean⟩⟩

end Provision
