import Provision.Proofs.Effects

/-!
# What a run writes

The output stream receives the lines that the console shows, and between them whatever the programs that
were started write. `World.Says` accounts for the lines from one world to another. A step that is
performed says its announcement and nothing else; a plan that is rehearsed says a fixed script. So the
lines of a real run are the first ones of its rehearsal, less what only a rehearsal says.
-/

namespace Provision

/-! ## Lines -/

namespace Console

def kept (console : Console) (lines : List Line) : List Line :=
  if console.quiet then [] else lines

theorem kept_nil (console : Console) : console.kept [] = [] := by
  unfold kept
  split <;> rfl

theorem kept_append (console : Console) (first second : List Line) :
    console.kept (first ++ second) = console.kept first ++ console.kept second := by
  unfold kept
  split <;> rfl

theorem filter_kept (console : Console) (lines : List Line) (keep : Line → Bool) :
    (console.kept lines).filter keep = console.kept (lines.filter keep) := by
  unfold kept
  split <;> rfl

theorem take_kept (console : Console) (lines : List Line) (count : Nat) :
    (console.kept lines).take count = console.kept (lines.take count) := by
  unfold kept
  split
  · exact List.take_nil
  · rfl

theorem mem_of_mem_kept {console : Console} {lines : List Line} {line : Line}
    (member : line ∈ console.kept lines) : line ∈ lines := by
  unfold kept at member
  split at member
  · cases member
  · exact member

namespace Line

/-- Whether a line belongs to the banner that opens a run. -/
def isBanner : Line → Bool
  | .title _ | .setting _ _ | .prepending _ => true
  | _ => false

def isAnnouncement : Line → Bool
  | .download _ | .command _ => true
  | _ => false

def isSummary : Line → Bool
  | .rehearsed _ | .completed _ => true
  | _ => false

theorem other_of_summary (line : Line) (summary : line.isSummary = true) :
    line.isBanner = false ∧ line.isAnnouncement = false := by
  cases line with
  | rehearsed steps => exact ⟨rfl, rfl⟩
  | completed steps => exact ⟨rfl, rfl⟩
  | _ => cases summary

end Line

end Console

def Step.announcement : Step → Console.Line
  | .download url _ => .download url
  | .run command => .command command.text

/-- The line below the announcement of a step that saves a file. -/
def Step.destinationLine : Step → List Console.Line
  | .download _ destination => [.destination destination]
  | .run _ => []

namespace Written

def lines (pieces : List Written) : List Console.Line :=
  pieces.filterMap fun
    | .line shown => some shown
    | .reply _ | .ofProgram _ => none

theorem lines_append (first second : List Written) :
    lines (first ++ second) = lines first ++ lines second :=
  List.filterMap_append

theorem lines_map_line (shown : List Console.Line) : lines (shown.map .line) = shown := by
  induction shown with
  | nil => rfl
  | cons line rest ih => exact congrArg (line :: ·) ih

theorem lines_map_of_program (outputs : List Bytes) : lines (outputs.map .ofProgram) = [] := by
  induction outputs with
  | nil => rfl
  | cons output rest ih => exact ih

end Written

/-! ## From one world to another -/

namespace World

/-- From one world to the other, the console has shown exactly these lines, of which a quiet one keeps
none. Programs may have written between them. -/
def Says (console : Console) (lines : List Console.Line) (before after : World) : Prop :=
  ∃ pieces, after.written = before.written ++ pieces ∧ Written.lines pieces = console.kept lines

variable {console : Console} {first second : List Console.Line} {before between after : World}

theorem Says.of_same (same : after.written = before.written) : Says console [] before after := by
  refine ⟨[], by rw [same, List.append_nil], ?_⟩
  rw [Console.kept_nil]
  rfl

theorem Says.trans (earlier : Says console first before between)
    (later : Says console second between after) :
    Says console (first ++ second) before after := by
  obtain ⟨pieces, written, lines⟩ := earlier
  obtain ⟨morePieces, moreWritten, moreLines⟩ := later
  refine ⟨pieces ++ morePieces, ?_, ?_⟩
  · rw [moreWritten, written, List.append_assoc]
  · rw [Written.lines_append, lines, moreLines, Console.kept_append]

theorem written_display (world : World) (console : Console) (line : Console.Line) :
    (world.display console line).written =
      world.written ++ (console.kept [line]).map .line := by
  unfold display Console.kept
  split
  · exact (List.append_nil _).symm
  · rfl

theorem says_display (world : World) (console : Console) (line : Console.Line) :
    Says console [line] world (world.display console line) :=
  ⟨_, written_display world console line, Written.lines_map_line _⟩

theorem written_reveal (machine : Machine) (event : Log.Event) (world : World) :
    (world.reveal machine event).written = world.written := by
  unfold reveal
  split
  · split <;> rfl
  · rfl

theorem written_remark (machine : Machine) (event : Log.Event) (world : World) :
    (world.remark machine event).written = world.written :=
  written_reveal machine event _

theorem written_foldl {α : Type} {tell : World → α → World}
    (tells : ∀ (world : World) item, (tell world item).written = world.written) (items : List α)
    (world : World) : (items.foldl tell world).written = world.written := by
  induction items generalizing world with
  | nil => rfl
  | cons item rest ih => exact (ih (tell world item)).trans (tells world item)

theorem written_reveal_all (machine : Machine) (events : List Log.Event) (world : World) :
    (world.revealAll machine events).written = world.written :=
  written_foldl (fun world event => written_reveal machine event world) events world

theorem written_remark_all (machine : Machine) (events : List Log.Event) (world : World) :
    (world.remarkAll machine events).written = world.written :=
  written_foldl (fun world event => written_remark machine event world) events world

theorem written_draw_bar (machine : Machine) (world : World) :
    (world.drawBar machine).written = world.written := by
  unfold drawBar
  split <;> rfl

theorem written_advance_bar (machine : Machine) (world : World) (report : Nat × Nat) :
    (world.advanceBar machine report).written = world.written :=
  written_draw_bar machine _

theorem written_clear_bar (machine : Machine) (world : World) :
    (world.clearBar machine).written = world.written :=
  written_draw_bar machine _

end World

/-! ## Performed steps -/

theorem Download.written_receive (machine : Machine) (url destination : String)
    (exchange : Http.Exchange) (world : World) :
    (receive machine url destination exchange world).2.written = world.written := by
  have asked := World.written_reveal_all machine
    (exchange.connections.flatMap connectionRemarks)
    { world with requests := world.requests ++ exchange.requests }
  have advanced (reports : List (Nat × Nat)) (world : World) :
      (reports.foldl (World.advanceBar machine) world).written = world.written :=
    World.written_foldl (World.written_advance_bar machine) reports world
  unfold receive
  dsimp only
  split
  · exact asked
  · split
    · split
      · exact (advanced _ _).trans asked
      · exact ((World.written_remark machine _ _).trans (advanced _ _)).trans asked
    · exact asked

namespace Session

open World

variable {machine : Machine} {console : Console}

theorem written_resolve (machine : Machine) (command : Command) (world : World) :
    (resolve machine command world).2.written = world.written := by
  unfold resolve
  split
  · rfl
  · exact written_remark machine _ world

/-- What the program of a step writes, if the step starts one. -/
def programOutput (machine : Machine) (step : Step) (files : Host.FileTree) : List Bytes :=
  match step with
  | .download _ _ => []
  | .run command =>
      match (launchOf machine command files).run files machine.surroundings.directory with
      | .ok (trace, _) => [trace.output]
      | .error _ => []

/-- A command writes what its program writes, if that is started, and shows no line itself. -/
theorem written_run_command (machine : Machine) (command : Command) (world : World) :
    (runCommand machine command world).2.written =
      world.written ++ (programOutput machine (.run command) world.files).map .ofProgram := by
  obtain ⟨found, toldResolved⟩ := resolve_told machine command world
  have resolved := written_resolve machine command world
  unfold runCommand programOutput launchOf
  dsimp only
  rw [← found]
  generalize resolve machine command world = located at toldResolved resolved ⊢
  obtain ⟨program, told⟩ := located
  have ready : (told.remark machine (spawnRemark program command)).written = world.written :=
    (written_remark machine _ told).trans resolved
  have files : (told.remark machine (spawnRemark program command)).files = world.files :=
    (only_told_remark machine _ told).files.trans toldResolved.files
  dsimp only
  rw [files]
  cases (Host.Launch.ofCommand machine.surroundings command program).run world.files
      machine.surroundings.directory with
  | error refusal => exact ready.trans (List.append_nil _).symm
  | ok ended => exact congrArg (· ++ _) ready

/-- A step that is performed writes its announcement, whatever becomes of it, and then what its program
writes. -/
theorem written_perform (machine : Machine) (console : Console) (step : Step) (world : World) :
    (perform machine console step world).2.written =
      world.written ++ (console.kept [step.announcement]).map .line ++
        (programOutput machine step world.files).map .ofProgram := by
  have announced := world.written_display console step.announcement
  cases step with
  | run command =>
      have ran := written_run_command machine command (world.display console (.command command.text))
      rw [(world.only_told_display console _).files] at ran
      exact ran.trans (congrArg (· ++ _) announced)
  | download url destination =>
      have saved := Download.written_receive machine url destination
        (Http.Client.fetch machine.network url)
        ((world.display console (.download url)).showBar (console.bar 0))
      have ends : (perform machine console (.download url destination) world).2.written =
          (world.display console (.download url)).written := by
        unfold perform Download.run
        dsimp only
        split
        · exact (written_clear_bar machine _).trans saved
        · exact ((written_remark machine _ _).trans (written_clear_bar machine _)).trans saved
      exact (ends.trans announced).trans (List.append_nil _).symm

theorem says_perform (machine : Machine) (console : Console) (step : Step) (world : World) :
    Says console [step.announcement] world (perform machine console step world).2 := by
  refine ⟨_, (written_perform machine console step world).trans (List.append_assoc _ _ _), ?_⟩
  rw [Written.lines_append, Written.lines_map_line, Written.lines_map_of_program, List.append_nil]

end Session

/-! ## Performed plans -/

/-- Steps that each say a line of their own say them in the order in which they are presented. -/
theorem Plan.Course.says {console : Console} {runner : Runner World} {total number : Nat}
    {steps : List Step} {world final : World} {record : List (Presentation World)}
    {result : Except ProvisionError (List Outcome)} {own : Step → Console.Line}
    (course : Course runner total number steps world record result final)
    (remarks : ∀ event state, (runner.remark event state).written = state.written)
    (performs : ∀ step state, World.Says console [own step] state (runner.perform step state).2) :
    World.Says console ((record.map Presentation.step).map own) world final := by
  have begins (number : Nat) (step : Step) (state : World) :
      World.Says console [] state (runner.remark (beginsStep number total step) state) :=
    .of_same (remarks _ state)
  induction course with
  | finished number state => exact .of_same rfl
  | @failed number step rest state asked reached error begun answered =>
      have performed := performs step asked
      rw [answered] at performed
      subst begun
      have aborts : World.Says console [] reached
          (runner.remark (abortsAt number error) reached) := .of_same (remarks _ reached)
      exact ((begins number step state).trans performed).trans aborts
  | @advanced number step rest state asked reached final outcome record result begun answered later
      ih =>
      have performed := performs step asked
      rw [answered] at performed
      subst begun
      exact ((begins number step state).trans performed).trans ih

namespace Session

open World

theorem written_display_all (console : Console) (lines : List Console.Line) (world : World) :
    (displayAll console lines world).written =
      world.written ++ (console.kept lines).map .line := by
  induction lines generalizing world with
  | nil =>
      rw [Console.kept_nil]
      exact (List.append_nil _).symm
  | cons line rest ih =>
      have kept : console.kept (line :: rest) = console.kept [line] ++ console.kept rest :=
        console.kept_append [line] rest
      rw [kept, List.map_append, ← List.append_assoc, ← world.written_display console line]
      exact ih (world.display console line)

theorem says_display_all (console : Console) (lines : List Console.Line) (world : World) :
    Says console lines world (displayAll console lines world) :=
  ⟨_, written_display_all console lines world, Written.lines_map_line _⟩

end Session

end Provision
