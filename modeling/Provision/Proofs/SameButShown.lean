import Provision.Proofs.Effects

/-!
# Quiet and loud

What has been written to the output stream is never read, and the console settles nothing but what is
written there and whether a download shows a bar. So the same plan goes alike on a quiet console and on
another one, in worlds that differ in nothing but the output stream and what a terminal was made to draw of
bars. One lemma for each thing that a step does carries this from world to world, and the relation of two
runners carries it through the plan.
-/

namespace Provision

/-! ## Worlds that differ in what is shown -/

/-- The second stream is the first one with what the terminal draws of bars put in between. Without a
terminal nothing is. -/
inductive Overdrawn (terminal : Option Terminal) : ByteArray → ByteArray → Prop where
  | same (bytes : ByteArray) : Overdrawn terminal bytes bytes
  | told {plain shown : ByteArray} (before : Overdrawn terminal plain shown) (bytes : ByteArray) :
      Overdrawn terminal (plain ++ bytes) (shown ++ bytes)
  | drawn {plain shown : ByteArray} {screen : Terminal} (before : Overdrawn terminal plain shown)
      (is : terminal = some screen) (bar : Bar) : Overdrawn terminal plain (shown ++ screen.drawn bar)

theorem Overdrawn.eq {plain shown : ByteArray} (overdrawn : Overdrawn none plain shown) :
    plain = shown := by
  induction overdrawn with
  | same => rfl
  | told _ bytes ih => exact congrArg (· ++ bytes) ih
  | drawn _ is => cases is

/-- The worlds differ in nothing but what the output stream has received and what was drawn of bars on the
error stream of the second one. -/
structure World.SameButShown (terminal : Option Terminal) (still loud : World) : Prop where
  files : still.files = loud.files
  errorOutput : Overdrawn terminal still.errorOutput loud.errorOutput
  log : still.log = loud.log
  requests : still.requests = loud.requests
  launches : still.launches = loud.launches

/-- Both answer the same, and leave worlds that differ in nothing but what is shown. -/
structure World.Alike {α : Type} (terminal : Option Terminal) (still loud : α × World) : Prop where
  answer : still.1 = loud.1
  world : still.2.SameButShown terminal loud.2

namespace World

/-- What goes alike on any terminal, as far as no bar is drawn there, receives on its error stream what it
would without a terminal, and also what it does with one unless a bar is drawn. -/
theorem same_errors_of_alike {α : Type} {draws : Prop} {still : α × World}
    {loud : Option Terminal → α × World}
    (alike : ∀ shown terminal, (draws → terminal = shown) → Alike shown still (loud terminal))
    (terminal : Option Terminal) :
    Alike terminal still (loud terminal) ∧
      (terminal = none ∨ ¬ draws → still.2.errorOutput = (loud terminal).2.errorOutput) ∧
      still.2.errorOutput = (loud none).2.errorOutput := by
  refine ⟨alike terminal terminal fun _ => rfl, ?_, ?_⟩
  · intro undrawn
    exact (alike none terminal fun drawn => undrawn.resolve_right (absurd drawn)).world.errorOutput.eq
  · exact (alike none none fun _ => rfl).world.errorOutput.eq

variable {terminal screen : Option Terminal} {left right : World}

theorem SameButShown.refl (terminal : Option Terminal) (world : World) :
    world.SameButShown terminal world := ⟨rfl, .same _, rfl, rfl, rfl⟩

theorem SameButShown.print_error (same : left.SameButShown terminal right) (text : String) :
    (left.printError text).SameButShown terminal (right.printError text) :=
  ⟨same.files, same.errorOutput.told _, same.log, same.requests, same.launches⟩

/-- Two machines with one filter for the log show the same events. -/
theorem SameButShown.reveal (same : left.SameButShown terminal right) {first second : Machine}
    (filter : first.filter = second.filter) (event : Log.Event) :
    (left.reveal first event).SameButShown terminal (right.reveal second event) := by
  unfold World.reveal
  rw [filter]
  split
  · split
    · exact same.print_error event.line
    · exact same
  · exact same

theorem SameButShown.remark (same : left.SameButShown terminal right) {first second : Machine}
    (filter : first.filter = second.filter) (event : Log.Event) :
    (left.remark first event).SameButShown terminal (right.remark second event) := by
  apply SameButShown.reveal ?_ filter event
  exact ⟨same.files, same.errorOutput, congrArg (· ++ _) same.log, same.requests, same.launches⟩

theorem SameButShown.remark_all (same : left.SameButShown terminal right) {first second : Machine}
    (filter : first.filter = second.filter) (events : List Log.Event) :
    (left.remarkAll first events).SameButShown terminal (right.remarkAll second events) :=
  List.foldl_rel same fun event _ _ _ same => same.remark filter event

/-- Lines may be shown on either side, whatever the consoles are. -/
theorem SameButShown.display (same : left.SameButShown terminal right) (first second : Console)
    (line : Console.Line) :
    (left.display first line).SameButShown terminal (right.display second line) := by
  unfold World.display
  split <;> split <;>
    exact ⟨same.files, same.errorOutput, same.log, same.requests, same.launches⟩

/-! ## Bars -/

theorem SameButShown.draw_bar (same : left.SameButShown terminal right) {machine : Machine}
    (leadsTo : machine.terminal = terminal) :
    left.SameButShown terminal (right.drawBar machine) := by
  unfold World.drawBar
  split
  · next drawing bar is _ =>
      exact ⟨same.files, same.errorOutput.drawn (leadsTo.symm.trans is) bar, same.log, same.requests,
        same.launches⟩
  · exact same

theorem draw_bar_of_none (none : left.bar = none) (machine : Machine) :
    left.drawBar machine = left := by
  unfold World.drawBar
  split
  · next shows => cases none.symm.trans shows
  · rfl

/-- The worlds differ in nothing but what is shown, and there is no bar in the first one. -/
structure Unseen (terminal : Option Terminal) (still loud : World) : Prop extends
    SameButShown terminal still loud where
  barless : still.bar = none

theorem bar_reveal (machine : Machine) (event : Log.Event) (world : World) :
    (world.reveal machine event).bar = world.bar := by
  unfold World.reveal
  split
  · split <;> rfl
  · rfl

theorem Unseen.reveal (unseen : left.Unseen terminal right) {first second : Machine}
    (filter : first.filter = second.filter) (event : Log.Event) :
    (left.reveal first event).Unseen terminal (right.reveal second event) :=
  ⟨unseen.toSameButShown.reveal filter event, (bar_reveal first event left).trans unseen.barless⟩

theorem Unseen.remark (unseen : left.Unseen terminal right) {first second : Machine}
    (filter : first.filter = second.filter) (event : Log.Event) :
    (left.remark first event).Unseen terminal (right.remark second event) :=
  ⟨unseen.toSameButShown.remark filter event, (bar_reveal first event _).trans unseen.barless⟩

theorem Unseen.show_bar (same : left.SameButShown terminal right) (bar : Option Bar) :
    (left.showBar none).Unseen terminal (right.showBar bar) :=
  ⟨⟨same.files, same.errorOutput, same.log, same.requests, same.launches⟩, rfl⟩

theorem Unseen.draw_bar (unseen : left.Unseen terminal right) (first second : Machine)
    (leadsTo : second.terminal = terminal) :
    (left.drawBar first).Unseen terminal (right.drawBar second) := by
  rw [draw_bar_of_none unseen.barless]
  exact ⟨unseen.toSameButShown.draw_bar leadsTo, unseen.barless⟩

theorem Unseen.advance_bar (unseen : left.Unseen terminal right) (first second : Machine)
    (leadsTo : second.terminal = terminal) (report : Nat × Nat) :
    (left.advanceBar first report).Unseen terminal (right.advanceBar second report) := by
  unfold World.advanceBar
  rw [unseen.barless]
  exact (Unseen.show_bar unseen.toSameButShown _).draw_bar first second leadsTo

theorem Unseen.clear_bar (unseen : left.Unseen terminal right) (first second : Machine)
    (leadsTo : second.terminal = terminal) :
    (left.clearBar first).SameButShown terminal (right.clearBar second) := by
  unfold World.clearBar
  rw [unseen.barless]
  have drawn := (Unseen.show_bar unseen.toSameButShown (right.bar.map Bar.clear)).draw_bar first second
    leadsTo
  exact (Unseen.show_bar drawn.toSameButShown none).toSameButShown

end World

open World

/-! ## Steps -/

section Steps

variable {terminal screen : Option Terminal} {left right : World}

namespace Download

theorem unseen_abandon (unseen : left.Unseen terminal right) (machine : Machine)
    (destination : String) (error : DownloadError) (progress : List (Nat × Nat)) :
    (abandon { machine with terminal := screen } destination error progress left).1 =
        (abandon { machine with terminal } destination error progress right).1 ∧
      (abandon { machine with terminal := screen } destination error progress left).2.Unseen terminal
        (abandon { machine with terminal } destination error progress right).2 :=
  ⟨rfl, ⟨congrArg (Host.FileTree.unlink · _ _) unseen.files, unseen.errorOutput, unseen.log,
    unseen.requests, unseen.launches⟩, unseen.barless⟩

/-- A download goes alike with a bar and without one, whatever terminal there is without one. -/
theorem unseen_receive (unseen : left.Unseen terminal right) (machine : Machine)
    (screen : Option Terminal) (url destination : String) (exchange : Http.Exchange) :
    (receive { machine with terminal := screen } url destination exchange left).1 =
        (receive { machine with terminal } url destination exchange right).1 ∧
      (receive { machine with terminal := screen } url destination exchange left).2.Unseen terminal
        (receive { machine with terminal } url destination exchange right).2 := by
  have requested : Unseen terminal { left with requests := left.requests ++ exchange.requests }
      { right with requests := right.requests ++ exchange.requests } :=
    ⟨⟨unseen.files, unseen.errorOutput, unseen.log, congrArg (· ++ _) unseen.requests,
      unseen.launches⟩, unseen.barless⟩
  have asked : Unseen terminal
      (revealAll { machine with terminal := screen } (exchange.connections.flatMap connectionRemarks)
        { left with requests := left.requests ++ exchange.requests })
      (revealAll { machine with terminal } (exchange.connections.flatMap connectionRemarks)
        { right with requests := right.requests ++ exchange.requests }) :=
    List.foldl_rel requested fun event _ _ _ unseen => unseen.reveal rfl event
  unfold receive
  generalize revealAll _ _ { left with requests := left.requests ++ exchange.requests } =
    leftAsked at asked ⊢
  generalize revealAll _ _ { right with requests := right.requests ++ exchange.requests } =
    rightAsked at asked ⊢
  dsimp only
  rw [← asked.files]
  split
  · exact unseen_abandon asked machine destination _ []
  · next answer _ =>
      split
      · have saves : save { machine with terminal := screen } url destination answer.delivery
            leftAsked.files = save { machine with terminal } url destination answer.delivery
              leftAsked.files := rfl
        rw [saves]
        generalize save { machine with terminal } url destination answer.delivery leftAsked.files =
          saved
        obtain ⟨⟨result, progress⟩, files⟩ := saved
        have written : Unseen terminal { leftAsked with files } { rightAsked with files } :=
          ⟨⟨rfl, asked.errorOutput, asked.log, asked.requests, asked.launches⟩, asked.barless⟩
        have advanced : Unseen terminal
            (progress.foldl (advanceBar { machine with terminal := screen }) { leftAsked with files })
            (progress.foldl (advanceBar { machine with terminal }) { rightAsked with files }) :=
          List.foldl_rel written fun report _ _ _ unseen => unseen.advance_bar _ _ rfl report
        cases result with
        | error error => exact unseen_abandon advanced machine destination error progress
        | ok file => exact ⟨rfl, advanced.remark rfl (savedRemark file)⟩
      · exact unseen_abandon asked machine destination _ []

theorem unseen_run (unseen : left.Unseen terminal right) (machine : Machine)
    (screen : Option Terminal) (url destination : String) :
    (run { machine with terminal := screen } url destination left).1 =
        (run { machine with terminal } url destination right).1 ∧
      (run { machine with terminal := screen } url destination left).2.Unseen terminal
        (run { machine with terminal } url destination right).2 :=
  unseen_receive unseen machine screen url destination _

end Download

namespace Session

theorem alike_resolve (same : left.SameButShown terminal right) (machine : Machine)
    (first second : Option Terminal) (command : Command) :
    Alike terminal (resolve { machine with terminal := first } command left)
      (resolve { machine with terminal := second } command right) := by
  unfold resolve
  rw [← same.files]
  dsimp only
  split
  · exact ⟨rfl, same⟩
  · exact ⟨rfl, same.remark rfl _⟩

theorem alike_run_command (same : left.SameButShown terminal right) (machine : Machine)
    (first second : Option Terminal) (command : Command) :
    Alike terminal (runCommand { machine with terminal := first } command left)
      (runCommand { machine with terminal := second } command right) := by
  obtain ⟨found, told⟩ := alike_resolve same machine first second command
  unfold runCommand
  generalize resolve { machine with terminal := first } command left = leftLocated at found told ⊢
  generalize resolve { machine with terminal := second } command right = rightLocated
    at found told ⊢
  obtain ⟨program, leftTold⟩ := leftLocated
  obtain ⟨_, rightTold⟩ := rightLocated
  cases found
  have ready : SameButShown terminal
      (leftTold.remark { machine with terminal := first } (spawnRemark program command))
      (rightTold.remark { machine with terminal := second } (spawnRemark program command)) :=
    told.remark rfl _
  dsimp only
  rw [← ready.files]
  split
  · exact ⟨rfl, ready⟩
  · exact ⟨rfl, ⟨rfl, ready.errorOutput.told _, ready.log, ready.requests,
      congrArg (· ++ _) ready.launches⟩⟩

/-- A step answers the same and does the same on a quiet console and on any other one. Only a download
can make a terminal draw something. -/
theorem alike_perform (same : left.SameButShown terminal right) (machine : Machine)
    (first second : Option Terminal) {still : Console} (quiet : still.quiet = true) (loud : Console)
    (step : Step) (draws : ∀ url destination, step = .download url destination → second = terminal) :
    Alike terminal (perform { machine with terminal := first } still step left)
      (perform { machine with terminal := second } loud step right) := by
  cases step with
  | run command =>
      obtain ⟨answer, world⟩ := alike_run_command
        (same.display still loud (.command command.text)) machine first second command
      exact ⟨congrArg (Except.map Outcome.exited) answer, world⟩
  | download url destination =>
      have hidden : still.bar 0 = none := by simp [Console.bar, Console.barLength, quiet]
      have begun := Unseen.show_bar (same.display still loud (.download url)) (loud.bar 0)
      rw [draws url destination rfl]
      obtain ⟨answer, unseen⟩ := Download.unseen_run begun machine first url destination
      have cleared := unseen.clear_bar { machine with terminal := first } { machine with terminal } rfl
      unfold perform
      dsimp only
      rw [hidden, ← answer]
      split
      · exact ⟨rfl, cleared⟩
      · exact ⟨rfl, cleared.remark rfl _⟩

theorem same_rehearse (same : left.SameButShown terminal right) (first second : Console)
    (step : Step) :
    (rehearse first step left).SameButShown terminal (rehearse second step right) := by
  cases step with
  | run command => exact same.display first second _
  | download url destination => exact (same.display first second _).display first second _

theorem same_display_all (same : left.SameButShown terminal right) (first second : Console)
    (lines : List Console.Line) :
    (displayAll first lines left).SameButShown terminal (displayAll second lines right) :=
  List.foldl_rel same fun line _ _ _ same => same.display first second line

end Session

end Steps

/-! ## Plans -/

/-- While their states are related, the runners answer each of some steps alike, and these steps and all
remarks keep the states related. -/
structure Runner.Related {σ τ : Type} (first : Runner σ) (second : Runner τ) (steps : List Step)
    (related : σ → τ → Prop) : Prop where
  remark : ∀ {left right} event, related left right →
    related (first.remark event left) (second.remark event right)
  answer : ∀ {left right}, ∀ step ∈ steps, related left right →
    (first.perform step left).1 = (second.perform step right).1
  reached : ∀ {left right}, ∀ step ∈ steps, related left right →
    related (first.perform step left).2 (second.perform step right).2

namespace Plan

variable {σ τ : Type} {first : Runner σ} {second : Runner τ} {related : σ → τ → Prop} {left : σ}
  {right : τ}

theorem present_related (total number : Nat) {steps : List Step}
    (runners : first.Related second steps related) (start : related left right) :
    (presentFrom first total number steps left).1 = (presentFrom second total number steps right).1 ∧
      related (presentFrom first total number steps left).2
        (presentFrom second total number steps right).2 := by
  induction steps generalizing number left right with
  | nil => exact ⟨rfl, start⟩
  | cons step rest ih =>
      have later : first.Related second rest related :=
        ⟨runners.remark, fun step member => runners.answer step (List.mem_cons_of_mem _ member),
          fun step member => runners.reached step (List.mem_cons_of_mem _ member)⟩
      have asked := runners.remark (beginsStep number total step) start
      have answer := runners.answer step List.mem_cons_self asked
      have reached := runners.reached step List.mem_cons_self asked
      simp only [presentFrom]
      generalize first.perform step _ = leftAnswered at answer reached ⊢
      generalize second.perform step _ = rightAnswered at answer reached ⊢
      obtain ⟨leftAnswer, leftReached⟩ := leftAnswered
      obtain ⟨rightAnswer, rightReached⟩ := rightAnswered
      cases answer
      cases leftAnswer with
      | error error => exact ⟨rfl, runners.remark (abortsAt number error) reached⟩
      | ok outcome =>
          obtain ⟨result, final⟩ := ih (number + 1) later reached
          dsimp only at result final ⊢
          generalize presentFrom first total (number + 1) rest leftReached = leftRest
            at result final ⊢
          generalize presentFrom second total (number + 1) rest rightReached = rightRest
            at result final ⊢
          obtain ⟨leftResult, leftFinal⟩ := leftRest
          obtain ⟨rightResult, rightFinal⟩ := rightRest
          cases result
          cases leftResult <;> exact ⟨rfl, final⟩

/-- The steps that a plan presents to a runner, with what it answers to each. -/
def answers (plan : Plan) (runner : Runner σ) (state : σ) :
    List (Step × Except ProvisionError Outcome) :=
  (plan.presentations runner state).map fun presented => (presented.step, presented.answer)

/-- Related runners are presented the same steps. -/
theorem answers_related (plan : Plan) (runners : first.Related second plan.steps related)
    (start : related left right) : plan.answers first left = plan.answers second right := by
  let answered {υ : Type} (presented : Presentation υ) := (presented.step, presented.answer)
  -- The runners that keep a record are related if the records tell the same answers.
  have recording : first.recording.Related second.recording plan.steps fun left right =>
      left.1.map answered = right.1.map answered ∧ related left.2 right.2 := by
    refine ⟨fun event same => ⟨same.1, runners.remark event same.2⟩,
      fun step member same => runners.answer step member same.2, fun step member same => ?_⟩
    refine ⟨?_, runners.reached step member same.2⟩
    simp only [Runner.recording, List.map_append, same.1, answered, List.map_cons,
      runners.answer step member same.2]
    rfl
  exact (@present_related _ _ _ _ _ ([], left) ([], right) plan.steps.length 1 plan.steps recording
    ⟨rfl, start⟩).2.1

/-- Whether downloads of the plan are performed, for which a terminal may show bars. -/
def Draws (plan : Plan) (dryRun : Bool) : Prop :=
  dryRun = false ∧ plan.downloads ≠ []

end Plan

namespace Session

variable {terminal : Option Terminal} {left right : World}

/-- The runners of a quiet console and of any other one go alike. -/
theorem related_runners (machine : Machine) (first second : Option Terminal) {still : Console}
    (quiet : still.quiet = true) (loud : Console) (dryRun : Bool) (plan : Plan)
    (draws : plan.Draws dryRun → second = terminal) :
    (runnerFor { machine with terminal := first } still dryRun).Related
      (runnerFor { machine with terminal := second } loud dryRun) plan.steps
      (SameButShown terminal) := by
  cases dryRun with
  | true =>
      exact ⟨fun event same => same.remark rfl event, fun _ _ _ => rfl,
        fun step _ same => same_rehearse same still loud step⟩
  | false =>
      have alike {left right : World} (step : Step) (member : step ∈ plan.steps)
          (same : left.SameButShown terminal right) :
          Alike terminal (perform { machine with terminal := first } still step left)
            (perform { machine with terminal := second } loud step right) := by
        apply alike_perform same machine first second quiet loud step
        rintro url destination rfl
        apply draws
        exact ⟨rfl, List.ne_nil_of_mem (Plan.mem_downloads.2 member)⟩
      exact ⟨fun event same => same.remark rfl event,
        fun step member same => (alike step member same).answer,
        fun step member same => (alike step member same).world⟩

/-- The steps that are presented when a plan is shown and run, with what is answered to each. -/
def planAnswers (machine : Machine) (console : Console) (snapshot : Snapshot) (dryRun : Bool)
    (plan : Plan) (world : World) : List (Step × Except ProvisionError Outcome) :=
  plan.answers (runnerFor machine console dryRun)
    (displayAll console (opening plan snapshot dryRun) world)

section Plans

variable (same : left.SameButShown terminal right) (machine : Machine)
  (first second : Option Terminal) {still : Console} (quiet : still.quiet = true) (loud : Console)
  (snapshot : Snapshot) (dryRun : Bool) (plan : Plan)
  (draws : plan.Draws dryRun → second = terminal)
include same quiet draws

theorem plan_answers_eq :
    planAnswers { machine with terminal := first } still snapshot dryRun plan left =
      planAnswers { machine with terminal := second } loud snapshot dryRun plan right :=
  Plan.answers_related plan (related_runners machine first second quiet loud dryRun plan draws)
    (same_display_all same still loud _)

theorem alike_run_plan :
    Alike terminal (runPlan { machine with terminal := first } still snapshot dryRun plan left)
      (runPlan { machine with terminal := second } loud snapshot dryRun plan right) := by
  have shown := same_display_all same still loud (opening plan snapshot dryRun)
  obtain ⟨result, final⟩ := Plan.present_related plan.steps.length 1
    (related_runners machine first second quiet loud dryRun plan draws) shown
  unfold runPlan Plan.execute
  dsimp only
  rw [← runnerFor, ← runnerFor]
  generalize Plan.presentFrom (runnerFor { machine with terminal := first } still dryRun) _ _ _ _ =
    leftRun at result final ⊢
  generalize Plan.presentFrom (runnerFor { machine with terminal := second } loud dryRun) _ _ _ _ =
    rightRun at result final ⊢
  obtain ⟨leftResult, leftFinal⟩ := leftRun
  obtain ⟨rightResult, rightFinal⟩ := rightRun
  cases result
  cases leftResult with
  | error error => exact ⟨rfl, final⟩
  | ok outcomes => exact ⟨rfl, final.display still loud _⟩

end Plans

end Session

end Provision
