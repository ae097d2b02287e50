import Provision.Proofs.QuietFlag
import Provision.Proofs.Refusal
import Provision.Proofs.Rehearsal
import Provision.Proofs.SameButShown

/-!
# Quiet runs

Two runs of which only one is quiet go through the same steps and end with the same status. The output
stream of the quiet one receives what programs write and no more. On the error stream the other run draws
the bars of its downloads if that stream leads to a terminal; apart from them both receive the same.
-/

namespace Provision

open World

namespace Session

variable {machine : Machine} {filter : Option Log.Filter} {console : Console} {left right : World}

/-! ## What quiet steps write -/

/-- What the programs of steps write, one after the other, up to the first mishap. -/
def programOutputs (machine : Machine) : List Step → Host.FileTree → List Bytes
  | [], _ => []
  | step :: rest, files =>
      programOutput machine step files ++ match attempt machine step files with
        | .ok after => programOutputs machine rest after
        | .error _ => []

section Outputs

variable {step : Step} {rest steps : List Step} {files after : Host.FileTree} {asked reached : World}
  {answer : Except ProvisionError Outcome}

theorem program_outputs_of_failed {mishap : Mishap}
    (goesWrong : attempt machine step files = .error mishap) :
    programOutputs machine (step :: rest) files = programOutput machine step files := by
  rw [programOutputs, goesWrong]
  exact List.append_nil _

theorem program_outputs_of_succeeded (succeeds : attempt machine step files = .ok after) :
    programOutputs machine (step :: rest) files =
      programOutput machine step files ++ programOutputs machine rest after := by
  rw [programOutputs, succeeds]

theorem kept_of_quiet (quiet : console.quiet = true) (lines : List Console.Line) :
    console.kept lines = [] :=
  if_pos quiet

/-- A step that is performed quietly writes what its program writes. -/
theorem written_of_answered (quiet : console.quiet = true)
    (answered : (performer { machine with filter } console).perform step asked = (answer, reached)) :
    reached.written = asked.written ++ (programOutput machine step asked.files).map .ofProgram := by
  have written := written_perform { machine with filter } console step asked
  rw [kept_of_quiet quiet, List.map_nil, List.append_nil] at written
  have same : perform { machine with filter } console step asked = (answer, reached) := answered
  rw [same] at written
  exact written

/-- Steps that are performed quietly write what their programs write. The files carry this from step to
step: remarks leave them alone, and write nothing. -/
theorem written_of_course {total number : Nat} {world final : World}
    {record : List (Presentation World)} {result : Except ProvisionError (List Outcome)}
    (quiet : console.quiet = true)
    (course : Plan.Course (performer { machine with filter } console) total number steps world record
      result final) :
    final.written = world.written ++ (programOutputs machine steps world.files).map .ofProgram := by
  have begins {number : Nat} {step : Step} {state asked : World}
      (begun : asked = (performer { machine with filter } console).remark
        (Plan.beginsStep number total step) state) :
      asked.written = state.written ∧ asked.files = state.files := by
    rw [begun]
    exact ⟨written_remark _ _ state, (only_told_remark _ _ state).files⟩
  induction course with
  | finished => exact (List.append_nil _).symm
  | @failed number step rest state asked reached error begun answered =>
      have written := written_of_answered quiet answered
      obtain ⟨silent, kept⟩ := begins begun
      rw [silent, kept] at written
      rcases agrees_of_begun begun answered with ⟨_, impossible, _⟩ | ⟨_, mishap, _, goesWrong, _⟩
      · cases impossible
      · rw [program_outputs_of_failed goesWrong, ← written]
        exact written_remark { machine with filter } (Plan.abortsAt number error) reached
  | @advanced number step rest state asked reached final outcome record result begun answered later
      ih =>
      have written := written_of_answered quiet answered
      obtain ⟨silent, kept⟩ := begins begun
      rw [silent, kept] at written
      rcases agrees_of_begun begun answered with ⟨_, _, succeeds⟩ | ⟨_, _, impossible, _⟩
      · rw [program_outputs_of_succeeded succeeds, List.map_append, ← List.append_assoc, ← written]
        exact ih
      · cases impossible

end Outputs

/-- What the programs of a plan write, of which a dry run starts none. -/
def planOutputs (machine : Machine) (dryRun : Bool) (plan : Plan) (files : Host.FileTree) :
    List Bytes :=
  if dryRun then [] else programOutputs machine plan.steps files

theorem display_of_quiet (quiet : console.quiet = true) (world : World) (line : Console.Line) :
    world.display console line = world :=
  if_pos quiet

theorem display_all_of_quiet (quiet : console.quiet = true) (lines : List Console.Line)
    (world : World) : displayAll console lines world = world := by
  induction lines generalizing world with
  | nil => rfl
  | cons line rest ih => exact (ih _).trans (display_of_quiet quiet world line)

theorem written_run_plan_of_quiet (quiet : console.quiet = true) (machine : Machine)
    (filter : Option Log.Filter) (snapshot : Snapshot) (dryRun : Bool) (plan : Plan) (world : World) :
    (runPlan { machine with filter } console snapshot dryRun plan world).2.written =
      world.written ++ (planOutputs machine dryRun plan world.files).map .ofProgram := by
  cases dryRun with
  | true =>
      obtain ⟨_, _, written⟩ := run_plan_rehearsed { machine with filter } console snapshot plan world
      rw [written, kept_of_quiet quiet]
      rfl
  | false =>
      have written := written_of_course quiet
        (plan.execute_course (performer { machine with filter } console) world)
      unfold runPlan
      rw [display_all_of_quiet quiet]
      simp only [Bool.false_eq_true, if_false]
      generalize plan.execute (performer { machine with filter } console) world = ran at written ⊢
      obtain ⟨result, final⟩ := ran
      cases result with
      | error error => exact written
      | ok outcomes =>
          dsimp only
          rw [display_of_quiet quiet]
          exact written

/-! ## Actions -/

theorem alike_conclude {terminal : Option Terminal}
    {first second : Except ProvisionError (List Outcome) × World}
    (alike : Alike terminal first second) (action : Action) :
    Alike terminal (concludePlan action first) (concludePlan action second) := by
  obtain ⟨firstResult, firstWorld⟩ := first
  obtain ⟨secondResult, secondWorld⟩ := second
  obtain ⟨result, world⟩ := alike
  cases result
  cases firstResult <;> exact ⟨rfl, world⟩

/-- The steps that are presented in the course of an action, with what is answered to each. -/
def actAnswers (machine : Machine) (console : Console) (action : Action) (dryRun : Bool)
    (world : World) : List (Step × Except ProvisionError Outcome) :=
  match planned machine action with
  | .error _ => []
  | .ok plan =>
      planAnswers machine console (Snapshot.capture machine.surroundings.bindings.entries) dryRun plan
        (world.remarkAll machine (planningRemarks machine action))

/-- What the programs of an action write: nothing if it cannot be planned. -/
def actOutputs (machine : Machine) (action : Action) (dryRun : Bool) (files : Host.FileTree) :
    List Bytes :=
  match planned machine action with
  | .error _ => []
  | .ok plan => planOutputs machine dryRun plan files

/-- Whether an action performs a download, for which a terminal may show a bar. -/
def Draws (machine : Machine) (action : Action) (dryRun : Bool) : Prop :=
  ∃ plan, planned machine action = .ok plan ∧ plan.Draws dryRun

section Alike

variable {terminal : Option Terminal} (same : left.SameButShown terminal right) (machine : Machine)
  (first second : Option Terminal) {still : Console} (quiet : still.quiet = true) (loud : Console)
  (action : Action) (dryRun : Bool) (draws : Draws machine action dryRun → second = terminal)
include same quiet draws

theorem alike_act (filter : Option Log.Filter) :
    Alike terminal (act { machine with terminal := first, filter } still action dryRun left)
      (act { machine with terminal := second, filter } loud action dryRun right) := by
  have remarked : SameButShown terminal
      (left.remarkAll { machine with terminal := first, filter } (planningRemarks machine action))
      (right.remarkAll { machine with terminal := second, filter }
        (planningRemarks machine action)) := same.remark_all rfl _
  cases settled : planned machine action with
  | error error =>
      rw [@act_eq_of_refused { machine with terminal := first } action error settled filter,
        @act_eq_of_refused { machine with terminal := second } action error settled filter]
      exact ⟨rfl, remarked⟩
  | ok plan =>
      rw [@act_eq_of_planned { machine with terminal := first } action plan settled filter,
        @act_eq_of_planned { machine with terminal := second } action plan settled filter]
      exact alike_conclude (alike_run_plan remarked { machine with filter } first second quiet loud _
        dryRun plan fun shows => draws ⟨plan, settled, shows⟩) action

theorem act_answers_eq :
    actAnswers { machine with terminal := first } still action dryRun left =
      actAnswers { machine with terminal := second } loud action dryRun right := by
  unfold actAnswers
  change (match planned machine action with | .error _ => _ | .ok plan => _) =
    match planned machine action with | .error _ => _ | .ok plan => _
  cases settled : planned machine action with
  | error error => rfl
  | ok plan =>
      exact plan_answers_eq (same.remark_all rfl _) machine first second quiet loud _ dryRun plan
        fun shows => draws ⟨plan, settled, shows⟩

end Alike

theorem written_act_of_quiet (quiet : console.quiet = true) (filter : Option Log.Filter)
    (action : Action) (dryRun : Bool) (world : World) :
    (act { machine with filter } console action dryRun world).2.written =
      world.written ++ (actOutputs machine action dryRun world.files).map .ofProgram := by
  have silent := written_remark_all { machine with filter } (planningRemarks machine action) world
  have told := only_told_remark_all { machine with filter } (planningRemarks machine action) world
  unfold actOutputs
  cases settled : planned machine action with
  | error error =>
      rw [act_eq_of_refused settled, silent]
      exact (List.append_nil _).symm
  | ok plan =>
      have written := written_run_plan_of_quiet quiet machine filter
        (Snapshot.capture machine.surroundings.bindings.entries) dryRun plan
        (world.remarkAll { machine with filter } (planningRemarks machine action))
      rw [silent, told.files] at written
      rw [act_eq_of_planned settled]
      generalize runPlan _ _ _ _ _ _ = ran at written ⊢
      obtain ⟨result, final⟩ := ran
      cases result <;> exact written

end Session

/-! ## Runs -/

namespace Program

variable {machine : Machine} {arguments hushed : List String} {invocation : Arguments.Invocation}

/-- The steps that are presented in the course of a run, with what is answered to each. -/
def answers (machine : Machine) (invocation : Arguments.Invocation) (world : World) :
    List (Step × Except ProvisionError Outcome) :=
  Session.actAnswers (logging machine (console invocation)) (console invocation) invocation.action
    invocation.dryRun (complained machine world)

/-- A quiet run goes like any other run of the action, on a terminal or not, as far as no bar is drawn. -/
theorem alike_run {terminal : Option Terminal} (machine : Machine) (first second : Option Terminal)
    (world : World) (parsed : Arguments.parse arguments = .ok invocation)
    (parsedHushed : Arguments.parse hushed = .ok { invocation with quiet := true })
    (draws : Session.Draws machine invocation.action invocation.dryRun → second = terminal) :
    Alike terminal (run { machine with terminal := first } hushed world)
      (run { machine with terminal := second } arguments world) := by
  have acts : Alike terminal
      (acted { machine with terminal := first } { invocation with quiet := true } world)
      (acted { machine with terminal := second } invocation world) :=
    Session.alike_act (.refl terminal _) machine first second rfl _ _ _ draws _
  rw [run_eq_of_parsed _ world parsed, run_eq_of_parsed _ world parsedHushed]
  obtain ⟨answer, final⟩ := acts
  generalize acted _ { invocation with quiet := true } world = still at answer final ⊢
  generalize acted _ invocation world = loud at answer final ⊢
  obtain ⟨stillAnswer, stillWorld⟩ := still
  obtain ⟨loudAnswer, loudWorld⟩ := loud
  cases answer
  cases stillAnswer with
  | ok done => exact ⟨rfl, final⟩
  | error failure => exact ⟨rfl, final.print_error failure.report⟩

theorem written_run_of_quiet (world : World) (parsed : Arguments.parse arguments = .ok invocation)
    (quiet : invocation.quiet = true) :
    (run machine arguments world).2.written = world.written ++
      (Session.actOutputs machine invocation.action invocation.dryRun world.files).map .ofProgram := by
  have written : (acted machine invocation world).2.written = _ :=
    Session.written_act_of_quiet quiet _ _ _ (complained machine world)
  rw [run_eq_of_parsed machine world parsed]
  generalize acted machine invocation world = ran at written ⊢
  obtain ⟨answer, final⟩ := ran
  cases answer <;> exact written

/-- A terminal that shows a bar as the number of bytes that have come. -/
def countingTerminal : Terminal where
  drawn bar :=
    if bar.isCleared then "\r\x1b[2K".toByteArray
    else s!"\r{bar.position} B/{bar.length} B".toByteArray

def watched (machine : Machine) : Machine :=
  { machine with terminal := some countingTerminal }

/-- A world with nothing but a build tool that writes a line to both streams and ends with the given code. -/
def talkingWorld (code : Int) : World where
  files :=
    (Host.FileTree.leadingTo [Utf8.encode "bin"]).put [Utf8.encode "bin", Utf8.encode "cargo"]
      (.program (Host.Script.conduct { output := some "Compiling", errorOutput := some "error", code }))

end Program

end Provision
