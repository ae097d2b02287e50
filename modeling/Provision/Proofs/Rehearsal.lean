import Provision.Proofs.Transcript

/-!
# A rehearsal foretells the performance

A dry run changes nothing, succeeds, and says a script that depends on the plan and the snapshot alone.
A real run of the plan, on whatever machine and in whatever world, says the same banner and announces the
same steps: all of them if they succeed, and otherwise those up to the first one that fails.
-/

namespace Provision

/-- All steps are presented to the runner, which answers them by these outcomes. -/
def Plan.Succeeds {σ : Type} (plan : Plan) (runner : Runner σ) (state : σ)
    (outcomes : List Outcome) : Prop :=
  (plan.presentations runner state).map Presentation.step = plan.steps ∧
    (plan.presentations runner state).map Presentation.answer = outcomes.map .ok

/-- The step with this index is the first one that the runner answers by an error. -/
def Plan.FailsAt {σ : Type} (plan : Plan) (runner : Runner σ) (state : σ) (index : Nat)
    (error : ProvisionError) : Prop :=
  ∃ (done : List (Presentation σ)) (failing : Presentation σ),
    plan.presentations runner state = done ++ [failing] ∧ done.length = index ∧
      (∀ earlier ∈ done, ∃ outcome, earlier.answer = .ok outcome) ∧ failing.answer = .error error

namespace Session

open World

variable {machine : Machine} {console : Console}

/-! ## What is to be said -/

def rehearsedLines (step : Step) : List Console.Line :=
  step.announcement :: step.destinationLine

def script (plan : Plan) (snapshot : Snapshot) : List Console.Line :=
  banner plan ++ searchPathLine plan snapshot ++ plan.steps.flatMap rehearsedLines ++
    [.rehearsed plan.steps.length]

def rehearsalOnly (plan : Plan) (snapshot : Snapshot) : List Console.Line :=
  searchPathLine plan snapshot ++ plan.steps.flatMap Step.destinationLine ++
    [.rehearsed plan.steps.length]

theorem is_banner_of_mem {plan : Plan} {line : Console.Line} (member : line ∈ banner plan) :
    line.isBanner = true ∧ line.isAnnouncement = false ∧ line.isSummary = false := by
  unfold banner at member
  rcases List.mem_append.1 member with early | prepending
  · rcases List.mem_cons.1 early with title | setting
    · subst title
      exact ⟨rfl, rfl, rfl⟩
    · obtain ⟨entry, _, rfl⟩ := List.mem_map.1 setting
      exact ⟨rfl, rfl, rfl⟩
  · obtain ⟨directory, _, rfl⟩ := List.mem_map.1 prepending
    exact ⟨rfl, rfl, rfl⟩

theorem announcement_is (step : Step) :
    step.announcement.isBanner = false ∧ step.announcement.isAnnouncement = true ∧
      step.announcement.isSummary = false := by
  cases step <;> exact ⟨rfl, rfl, rfl⟩

theorem is_only_of_mem {plan : Plan} {snapshot : Snapshot} {line : Console.Line}
    (member : line ∈ searchPathLine plan snapshot) :
    line.isBanner = false ∧ line.isAnnouncement = false := by
  unfold searchPathLine at member
  split at member
  · cases List.mem_singleton.1 member
    exact ⟨rfl, rfl⟩
  · cases member

theorem filter_steps {keep : Console.Line → Bool} {own : Step → List Console.Line}
    (each : ∀ step, (rehearsedLines step).filter keep = own step) (steps : List Step) :
    (steps.flatMap rehearsedLines).filter keep = steps.flatMap own := by
  induction steps with
  | nil => rfl
  | cons step rest ih => rw [List.flatMap_cons, List.filter_append, each, ih, List.flatMap_cons]

theorem filter_banner_banner (plan : Plan) :
    (banner plan).filter Console.Line.isBanner = banner plan :=
  List.filter_eq_self.2 fun _ member => (is_banner_of_mem member).1

theorem filter_announcement_banner (plan : Plan) :
    (banner plan).filter Console.Line.isAnnouncement = [] :=
  List.filter_eq_nil_iff.2 fun _ member => by simp [(is_banner_of_mem member).2.1]

theorem filter_banner_script (plan : Plan) (snapshot : Snapshot) :
    (script plan snapshot).filter Console.Line.isBanner = banner plan := by
  have path : (searchPathLine plan snapshot).filter Console.Line.isBanner = [] :=
    List.filter_eq_nil_iff.2 fun _ member => by simp [(is_only_of_mem member).1]
  have steps : (plan.steps.flatMap rehearsedLines).filter Console.Line.isBanner =
      plan.steps.flatMap fun _ => [] := filter_steps (fun step => by cases step <;> rfl) plan.steps
  simp [script, List.filter_append, filter_banner_banner, path, steps, Console.Line.isBanner]

theorem filter_announcement_script (plan : Plan) (snapshot : Snapshot) :
    (script plan snapshot).filter Console.Line.isAnnouncement =
      plan.steps.map Step.announcement := by
  have path : (searchPathLine plan snapshot).filter Console.Line.isAnnouncement = [] :=
    List.filter_eq_nil_iff.2 fun _ member => by simp [(is_only_of_mem member).2]
  have steps : (plan.steps.flatMap rehearsedLines).filter Console.Line.isAnnouncement =
      plan.steps.flatMap fun step => [step.announcement] :=
    filter_steps (fun step => by cases step <;> rfl) plan.steps
  rw [← List.map_eq_flatMap] at steps
  simp [script, List.filter_append, filter_announcement_banner, path, steps,
    Console.Line.isAnnouncement]

theorem filter_other_script (plan : Plan) (snapshot : Snapshot) :
    (script plan snapshot).filter (fun line => !line.isBanner && !line.isAnnouncement) =
      rehearsalOnly plan snapshot := by
  have opened : (banner plan).filter (fun line => !line.isBanner && !line.isAnnouncement) = [] :=
    List.filter_eq_nil_iff.2 fun _ member => by simp [(is_banner_of_mem member).1]
  have path : (searchPathLine plan snapshot).filter
      (fun line => !line.isBanner && !line.isAnnouncement) = searchPathLine plan snapshot :=
    List.filter_eq_self.2 fun _ member => by simp [is_only_of_mem member]
  have steps : (plan.steps.flatMap rehearsedLines).filter
      (fun line => !line.isBanner && !line.isAnnouncement) =
        plan.steps.flatMap Step.destinationLine :=
    filter_steps (fun step => by cases step <;> rfl) plan.steps
  rw [script, List.filter_append, List.filter_append, List.filter_append, opened, path, steps]
  rfl

/-! ## Rehearsals -/

theorem written_rehearse (console : Console) (step : Step) (world : World) :
    (rehearse console step world).written =
      world.written ++ (console.kept (rehearsedLines step)).map .line := by
  cases step with
  | run command => exact written_display world console (.command command.text)
  | download url destination =>
      have kept : console.kept (rehearsedLines (.download url destination)) =
          console.kept [.download url] ++ console.kept [.destination destination] :=
        console.kept_append [.download url] [.destination destination]
      unfold rehearse
      rw [written_display, written_display, kept, List.map_append, List.append_assoc]

/-- Rehearsed steps all succeed, change nothing, and say their lines. -/
theorem present_rehearser (machine : Machine) (console : Console) (total number : Nat)
    (steps : List Step) (world : World) :
    ∃ final, Plan.presentFrom (rehearser machine console) total number steps world =
        (.ok (steps.map fun _ => .planned), final) ∧
      world.OnlyTold final ∧
      final.written =
        world.written ++ (console.kept (steps.flatMap rehearsedLines)).map .line := by
  induction steps generalizing number world with
  | nil =>
      refine ⟨world, rfl, .refl world, ?_⟩
      rw [List.flatMap_nil, Console.kept_nil]
      exact (List.append_nil _).symm
  | cons step rest ih =>
      have remarked := World.only_told_remark machine (Plan.beginsStep number total step) world
      have quiet := written_remark machine (Plan.beginsStep number total step) world
      generalize begun : world.remark machine (Plan.beginsStep number total step) = asked
        at remarked quiet
      obtain ⟨final, presented, told, written⟩ := ih (number + 1) (rehearse console step asked)
      refine ⟨final, ?_, (remarked.trans (only_told_rehearse console step asked)).trans told, ?_⟩
      · have performed : (rehearser machine console).perform step
            ((rehearser machine console).remark (Plan.beginsStep number total step) world) =
              (.ok .planned, rehearse console step asked) := by
          rw [← begun]
          rfl
        simp only [Plan.presentFrom, performed, presented]
        rfl
      · rw [written, written_rehearse, quiet, List.flatMap_cons, Console.kept_append,
          List.map_append, List.append_assoc]

/-- A dry run succeeds with a planned outcome for each step, changes nothing, and says its script. -/
theorem run_plan_rehearsed (machine : Machine) (console : Console) (snapshot : Snapshot) (plan : Plan)
    (world : World) :
    (runPlan machine console snapshot true plan world).1 = .ok (plan.steps.map fun _ => .planned) ∧
      world.OnlyTold (runPlan machine console snapshot true plan world).2 ∧
      (runPlan machine console snapshot true plan world).2.written =
        world.written ++ (console.kept (script plan snapshot)).map .line := by
  have opened := only_told_display_all console (opening plan snapshot true) world
  have openedLines := written_display_all console (opening plan snapshot true) world
  obtain ⟨final, presented, told, written⟩ := present_rehearser machine console plan.steps.length 1
    plan.steps (displayAll console (opening plan snapshot true) world)
  have executed : plan.execute (rehearser machine console)
      (displayAll console (opening plan snapshot true) world) =
        (.ok (plan.steps.map fun _ => .planned), final) := presented
  have ran : runPlan machine console snapshot true plan world =
      (.ok (plan.steps.map fun _ => .planned),
        final.display console (.rehearsed plan.steps.length)) := by
    simp only [runPlan, if_true, executed, summary, List.length_map]
  rw [ran]
  refine ⟨rfl, (opened.trans told).trans (final.only_told_display console _), ?_⟩
  dsimp only
  rw [written_display, written, openedLines]
  simp only [script, opening, if_true, Console.kept_append, List.map_append, List.append_assoc]

/-! ## Performances -/

/-- A real run says the banner, announces all steps and says that they are completed, or announces
the steps up to the first one that fails and says nothing more. -/
theorem run_plan_performed (machine : Machine) (console : Console) (snapshot : Snapshot) (plan : Plan)
    (world : World) :
    let performed := runPlan machine console snapshot false plan world
    (∃ outcomes,
        plan.Succeeds (performer machine console)
          (displayAll console (opening plan snapshot false) world) outcomes ∧
        performed.1 = .ok outcomes ∧
        Says console (banner plan ++ plan.steps.map Step.announcement ++
          [.completed plan.steps.length]) world performed.2) ∨
      ∃ index error,
        plan.FailsAt (performer machine console)
          (displayAll console (opening plan snapshot false) world) index error ∧
        performed.1 = .error error ∧ index < plan.steps.length ∧
        Says console (banner plan ++ (plan.steps.take (index + 1)).map Step.announcement) world
          performed.2 := by
  intro performed
  have begun : Says console (banner plan) world
      (displayAll console (opening plan snapshot false) world) := by
    have said := says_display_all console (opening plan snapshot false) world
    simpa [opening] using said
  -- Each step that was presented has said its announcement, so what counts is which steps these are.
  generalize opened : displayAll console (opening plan snapshot false) world = start at begun
  have course := plan.execute_course (performer machine console) start
  have said := course.says (fun event state => written_remark machine event state)
    (fun step state => says_perform machine console step state)
  have presents := course.steps_prefix
  cases executed : plan.execute (performer machine console) start with
  | mk result after =>
      rw [executed] at course said
      cases result with
      | ok outcomes =>
          have ran : performed = (.ok outcomes, after.display console (.completed outcomes.length)) := by
            simp only [performed, runPlan, opened, executed, Bool.false_eq_true, if_false]
            rfl
          obtain ⟨all, answers, _⟩ := course.completed rfl
          have lengths : outcomes.length = plan.steps.length := by
            rw [← all, List.length_map, ← List.length_map (f := Presentation.answer), answers,
              List.length_map]
          rw [all] at said
          refine .inl ⟨outcomes, ⟨all, answers⟩, congrArg Prod.fst ran, ?_⟩
          rw [ran, lengths]
          exact (begun.trans said).trans (after.says_display console _)
      | error error =>
          have ran : performed = (.error error, after) := by
            simp only [performed, runPlan, opened, executed, Bool.false_eq_true, if_false]
          obtain ⟨done, failing, split, outcomes, answer, _⟩ := course.aborted rfl
          have taken : (plan.presentations (performer machine console) start).map Presentation.step =
              plan.steps.take (done.length + 1) := by
            rw [List.prefix_iff_eq_take.1 presents, split]
            simp
          have inside : done.length < plan.steps.length := by
            have shorter := presents.length_le
            rw [split, List.length_map, List.length_append] at shorter
            exact shorter
          rw [taken] at said
          refine .inr ⟨done.length, error, ⟨done, failing, split, rfl, outcomes, answer⟩,
            congrArg Prod.fst ran, inside, ?_⟩
          rw [ran]
          exact begun.trans said

theorem filter_banner_announcements (steps : List Step) :
    (steps.map Step.announcement).filter Console.Line.isBanner = [] := by
  refine List.filter_eq_nil_iff.2 ?_
  intro line member
  obtain ⟨step, _, rfl⟩ := List.mem_map.1 member
  simp [announcement_is step]

theorem filter_announcement_announcements (steps : List Step) :
    (steps.map Step.announcement).filter Console.Line.isAnnouncement =
      steps.map Step.announcement := by
  refine List.filter_eq_self.2 ?_
  intro line member
  obtain ⟨step, _, rfl⟩ := List.mem_map.1 member
  exact (announcement_is step).2.1

/-- What a real run says of a plan, whether it comes to the end or not: first the banner, and then
announcements of steps. -/
theorem filter_performed (plan : Plan) (steps : List Step) (ending : List Console.Line)
    (ends : ∀ line ∈ ending, line.isSummary = true) :
    (banner plan ++ steps.map Step.announcement ++ ending).filter Console.Line.isBanner =
        banner plan ∧
      (banner plan ++ steps.map Step.announcement ++ ending).filter Console.Line.isAnnouncement =
        steps.map Step.announcement := by
  have silent : ending.filter Console.Line.isBanner = [] ∧
      ending.filter Console.Line.isAnnouncement = [] := by
    constructor
    · exact List.filter_eq_nil_iff.2 fun line member => by
        simp [line.other_of_summary (ends line member)]
    · exact List.filter_eq_nil_iff.2 fun line member => by
        simp [line.other_of_summary (ends line member)]
  constructor
  · rw [List.filter_append, List.filter_append, filter_banner_banner, filter_banner_announcements,
      silent.1, List.append_nil, List.append_nil]
  · rw [List.filter_append, List.filter_append, filter_announcement_banner,
      filter_announcement_announcements, silent.2, List.append_nil, List.nil_append]

/-- A dry run of a plan changes no file, starts no program, sends no request, and answers that each step
is planned. A real run of the plan, wherever it takes place, says the same banner and makes the same
announcements if all steps succeed, and otherwise those of the steps up to the first that fails, and
then it does not say that it has succeeded. All else that the dry run says is known. -/
theorem rehearsal_foretells_performance (machine : Machine) (console : Console)
    (snapshot : Snapshot) (plan : Plan) (world : World) :
    let rehearsed := runPlan machine console snapshot true plan world
    let said := console.kept (script plan snapshot)
    rehearsed.1 = .ok (plan.steps.map fun _ => .planned) ∧ world.OnlyTold rehearsed.2 ∧
      rehearsed.2.written = world.written ++ said.map .line ∧
      said.filter (fun line => !line.isBanner && !line.isAnnouncement) =
        console.kept (rehearsalOnly plan snapshot) ∧
      ∀ (other : Machine) (found : Snapshot) (start : World),
        let performed := runPlan other console found false plan start
        ∃ pieces, performed.2.written = start.written ++ pieces ∧
          (Written.lines pieces).filter Console.Line.isBanner =
            said.filter Console.Line.isBanner ∧
          ((∃ outcomes,
              plan.Succeeds (performer other console)
                (displayAll console (opening plan found false) start) outcomes ∧
              performed.1 = .ok outcomes ∧
              (Written.lines pieces).filter Console.Line.isAnnouncement =
                said.filter Console.Line.isAnnouncement) ∨
            ∃ index error,
              plan.FailsAt (performer other console)
                (displayAll console (opening plan found false) start) index error ∧
              performed.1 = .error error ∧ index < plan.steps.length ∧
              (Written.lines pieces).filter Console.Line.isAnnouncement =
                (said.filter Console.Line.isAnnouncement).take (index + 1) ∧
              ∀ line ∈ Written.lines pieces, line.isSummary = false) := by
  intro rehearsed said
  obtain ⟨planned, told, written⟩ := run_plan_rehearsed machine console snapshot plan world
  have sameBanner : said.filter Console.Line.isBanner = console.kept (banner plan) := by
    rw [Console.filter_kept, filter_banner_script]
  have sameAnnouncements : said.filter Console.Line.isAnnouncement =
      console.kept (plan.steps.map Step.announcement) := by
    rw [Console.filter_kept, filter_announcement_script]
  refine ⟨planned, told, written, ?_, ?_⟩
  · rw [Console.filter_kept, filter_other_script]
  intro other found start performed
  rw [sameBanner, sameAnnouncements]
  rcases run_plan_performed other console found plan start with
    ⟨outcomes, succeeds, answered, pieces, wrote, lines⟩ |
      ⟨index, error, fails, failed, inside, pieces, wrote, lines⟩
  · obtain ⟨opens, announces⟩ := filter_performed plan plan.steps [.completed plan.steps.length]
      (by simp [Console.Line.isSummary])
    refine ⟨pieces, wrote, ?_, .inl ⟨outcomes, succeeds, answered, ?_⟩⟩
    · rw [lines, Console.filter_kept, opens]
    · rw [lines, Console.filter_kept, announces]
  · obtain ⟨opens, announces⟩ := filter_performed plan (plan.steps.take (index + 1)) [] (by simp)
    rw [List.append_nil] at opens announces
    refine ⟨pieces, wrote, ?_, .inr ⟨index, error, fails, failed, inside, ?_, ?_⟩⟩
    · rw [lines, Console.filter_kept, opens]
    · rw [lines, Console.filter_kept, announces, Console.take_kept, List.map_take]
    · intro line member
      rw [lines] at member
      rcases List.mem_append.1 (Console.mem_of_mem_kept member) with early | announced
      · exact (is_banner_of_mem early).2.2
      · obtain ⟨step, _, rfl⟩ := List.mem_map.1 announced
        exact (announcement_is step).2.2

end Session

end Provision
