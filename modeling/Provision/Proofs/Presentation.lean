import Provision.Plan.Execute

/-!
# What a runner is presented

A record beside a runner tells which steps it was presented, in which states it was asked, what it
answered and which states it reached. The record of an executed plan is a prefix of the plan: all of
it if every answer is an outcome, and otherwise what ends with the first error. A runner is any state
with any answers, so nothing is assumed of what steps do.
-/

namespace Provision

/-- A step that was presented: the state in which the runner was asked, its answer, and the state that
it reached. -/
structure Presentation (σ : Type) where
  step : Step
  asked : σ
  answer : Except ProvisionError Outcome
  reached : σ

/-- The runner with a record of all that is presented to it. Its answers do not depend on the record. -/
def Runner.recording {σ : Type} (runner : Runner σ) : Runner (List (Presentation σ) × σ) where
  perform step state :=
    let (answer, reached) := runner.perform step state.2
    (answer, state.1 ++ [{ step, asked := state.2, answer, reached }], reached)
  remark event state := (state.1, runner.remark event state.2)

namespace Plan

variable {σ : Type} {runner : Runner σ} {total number : Nat} {steps : List Step}
  {state final : σ} {record : List (Presentation σ)}
  {result : Except ProvisionError (List Outcome)}

/-- What a runner is presented while it executes a plan. -/
def presentations (plan : Plan) (runner : Runner σ) (state : σ) : List (Presentation σ) :=
  (plan.execute runner.recording ([], state)).2.1

/-- Each step is answered by the runner itself, in the state that the step before has left behind and
in which the remark on the step has been taken. -/
def Linked (runner : Runner σ) (total : Nat) : Nat → σ → List (Presentation σ) → Prop
  | _, _, [] => True
  | number, state, presented :: later =>
      presented.asked = runner.remark (beginsStep number total presented.step) state ∧
        runner.perform presented.step presented.asked = (presented.answer, presented.reached) ∧
        Linked runner total (number + 1) presented.reached later

def lastReached (state : σ) : List (Presentation σ) → σ
  | [] => state
  | presented :: later => lastReached presented.reached later

/-- How steps go from a number and a state on: the record of what is presented, the result and the
final state. One constructor for each way in which the next step can go. -/
inductive Course (runner : Runner σ) (total : Nat) :
    Nat → List Step → σ → List (Presentation σ) → Except ProvisionError (List Outcome) → σ →
      Prop where
  | finished (number : Nat) (state : σ) : Course runner total number [] state [] (.ok []) state
  | failed {number : Nat} {step : Step} {rest : List Step} {state asked reached : σ}
      {error : ProvisionError}
      (begun : asked = runner.remark (beginsStep number total step) state)
      (answered : runner.perform step asked = (.error error, reached)) :
      Course runner total number (step :: rest) state
        [{ step, asked, answer := .error error, reached }] (.error error)
        (runner.remark (abortsAt number error) reached)
  | advanced {number : Nat} {step : Step} {rest : List Step} {state asked reached final : σ}
      {outcome : Outcome} {record : List (Presentation σ)}
      {result : Except ProvisionError (List Outcome)}
      (begun : asked = runner.remark (beginsStep number total step) state)
      (answered : runner.perform step asked = (.ok outcome, reached))
      (later : Course runner total (number + 1) rest reached record result final) :
      Course runner total number (step :: rest) state
        ({ step, asked, answer := .ok outcome, reached } :: record)
        (result.map (outcome :: ·)) final

theorem course_of_present (runner : Runner σ) (total number : Nat) (steps : List Step) (state : σ) :
    ∃ record, Course runner total number steps state record
      (presentFrom runner total number steps state).1
      (presentFrom runner total number steps state).2 := by
  induction steps generalizing number state with
  | nil => exact ⟨[], .finished number state⟩
  | cons step rest ih =>
      cases answered : runner.perform step (runner.remark (beginsStep number total step) state) with
      | mk answer reached =>
          cases answer with
          | error error =>
              simp only [presentFrom, answered]
              exact ⟨_, .failed rfl answered⟩
          | ok outcome =>
              obtain ⟨record, later⟩ := ih (number + 1) reached
              have advanced := Course.advanced rfl answered later
              simp only [presentFrom, answered]
              cases rest : presentFrom runner total (number + 1) rest reached with
              | mk result final =>
                  rw [rest] at advanced
                  cases result <;> exact ⟨_, advanced⟩

/-- A runner that keeps a record answers as it does without, and its record is that of the course. -/
theorem Course.recorded (course : Course runner total number steps state record result final)
    (earlier : List (Presentation σ)) :
    presentFrom runner.recording total number steps (earlier, state) =
      (result, earlier ++ record, final) := by
  -- The record grows at its end while the course grows at its front.
  induction course generalizing earlier with
  | finished => simp [presentFrom]
  | failed begun answered =>
      subst begun
      simp [presentFrom, Runner.recording, answered]
  | @advanced number step rest state asked reached final outcome record result begun answered later
      ih =>
      subst begun
      have continued := ih (earlier ++
        [{ step, asked := runner.remark (beginsStep number total step) state,
           answer := .ok outcome, reached }])
      simp only [presentFrom]
      simp only [Runner.recording, answered] at continued ⊢
      rw [continued]
      cases result <;> simp [Except.map]

theorem execute_course (plan : Plan) (runner : Runner σ) (state : σ) :
    Course runner plan.steps.length 1 plan.steps state (plan.presentations runner state)
      (plan.execute runner state).1 (plan.execute runner state).2 := by
  obtain ⟨record, course⟩ := course_of_present runner plan.steps.length 1 plan.steps state
  have recorded := course.recorded []
  have same : plan.presentations runner state = record := by
    simp [presentations, execute, recorded]
  rw [same]
  exact course

theorem Course.steps_prefix (course : Course runner total number steps state record result final) :
    record.map Presentation.step <+: steps := by
  induction course with
  | finished => exact List.nil_prefix
  | failed => exact ⟨_, rfl⟩
  | advanced begun answered later ih =>
      exact List.cons_prefix_cons.2 ⟨rfl, ih⟩

theorem Course.linked (course : Course runner total number steps state record result final) :
    Linked runner total number state record := by
  induction course with
  | finished => trivial
  | failed begun answered => exact ⟨begun, answered, trivial⟩
  | advanced begun answered later ih => exact ⟨begun, answered, ih⟩

/-- All steps have an outcome, and the outcomes are the answers to them. -/
theorem Course.completed {outcomes : List Outcome}
    (course : Course runner total number steps state record result final)
    (succeeds : result = .ok outcomes) :
    record.map Presentation.step = steps ∧
      record.map Presentation.answer = outcomes.map .ok ∧ final = lastReached state record := by
  induction course generalizing outcomes with
  | finished =>
      cases succeeds
      exact ⟨rfl, rfl, rfl⟩
  | failed => cases succeeds
  | @advanced number step rest state asked reached final outcome record result begun answered later
      ih =>
      cases result with
      | error error => cases succeeds
      | ok laterOutcomes =>
          cases succeeds
          obtain ⟨presented, answers, reaches⟩ := ih rfl
          refine ⟨?_, ?_, reaches⟩
          · rw [List.map_cons, presented]
          · rw [List.map_cons, answers, List.map_cons]

/-- The last step that was presented is the first one that was answered by an error. -/
theorem Course.aborted {error : ProvisionError}
    (course : Course runner total number steps state record result final)
    (fails : result = .error error) :
    ∃ (done : List (Presentation σ)) (failing : Presentation σ),
      record = done ++ [failing] ∧ (∀ earlier ∈ done, ∃ outcome, earlier.answer = .ok outcome) ∧
        failing.answer = .error error ∧
        final = runner.remark (abortsAt (number + done.length) error) failing.reached := by
  induction course with
  | finished => cases fails
  | failed begun answered =>
      cases fails
      exact ⟨[], _, rfl, by simp, rfl, rfl⟩
  | @advanced number step rest state asked reached final outcome record result begun answered later
      ih =>
      cases result with
      | ok laterOutcomes => cases fails
      | error laterError =>
          cases fails
          obtain ⟨done, failing, split, outcomes, answer, reaches⟩ := ih rfl
          refine ⟨⟨step, asked, .ok outcome, reached⟩ :: done, failing, ?_, ?_, answer, ?_⟩
          · rw [split, List.cons_append]
          · intro earlier member
            rcases List.mem_cons.1 member with same | before
            · exact ⟨outcome, by rw [same]⟩
            · exact outcomes earlier before
          · rw [reaches, List.length_cons, Nat.add_assoc, Nat.add_comm 1]

/-- Whatever holds from each state to itself, is passed on, and holds across every remark and every step
that is given, holds from the first state to the final one. -/
theorem Course.related {holds : σ → σ → Prop}
    (course : Course runner total number steps state record result final)
    (refl : ∀ state, holds state state)
    (trans : ∀ {first second third}, holds first second → holds second third → holds first third)
    (remarks : ∀ event state, holds state (runner.remark event state))
    (performs : ∀ step ∈ steps, ∀ state, holds state (runner.perform step state).2) :
    holds state final := by
  induction course with
  | finished number state => exact refl state
  | @failed number step rest state asked reached error begun answered =>
      have performed := performs step List.mem_cons_self asked
      rw [answered] at performed
      subst begun
      exact trans (trans (remarks _ state) performed) (remarks _ reached)
  | @advanced number step rest state asked reached final outcome record result begun answered later
      ih =>
      have performed := performs step List.mem_cons_self asked
      rw [answered] at performed
      subst begun
      exact trans (trans (remarks _ state) performed)
        (ih fun step member => performs step (List.mem_cons_of_mem _ member))

theorem last_reached_append (state : σ) (done : List (Presentation σ)) (last : Presentation σ) :
    lastReached state (done ++ [last]) = last.reached := by
  induction done generalizing state with
  | nil => rfl
  | cons presented later ih => exact ih presented.reached

/-- A plan presents its steps in order, each once. If all are answered by outcomes these are the result;
otherwise the first error is the result, and no step behind it is presented. The final state is the one
that the last step presented has reached, to which a failure adds its remark: a runner whose state takes
no remarks stays where it is. -/
theorem execute_presents_prefix (plan : Plan) (runner : Runner σ) (state : σ) :
    let record := plan.presentations runner state
    let result := (plan.execute runner state).1
    let final := (plan.execute runner state).2
    plan.execute runner.recording ([], state) = (result, record, final) ∧
      record.map Presentation.step <+: plan.steps ∧
      Linked runner plan.steps.length 1 state record ∧
      ((∃ outcomes, result = .ok outcomes ∧ record.map Presentation.step = plan.steps ∧
          record.map Presentation.answer = outcomes.map .ok ∧
          outcomes.length = plan.steps.length ∧ final = lastReached state record) ∨
        ∃ (done : List (Presentation σ)) (failing : Presentation σ) (error : ProvisionError),
          record = done ++ [failing] ∧ (∀ earlier ∈ done, ∃ outcome, earlier.answer = .ok outcome) ∧
            failing.answer = .error error ∧
            record.map Presentation.step = plan.steps.take (done.length + 1) ∧
            result = .error error ∧
            final = runner.remark (abortsAt (done.length + 1) error) failing.reached) ∧
      ((∀ event asked, runner.remark event asked = asked) → final = lastReached state record) := by
  intro record result final
  have course : Course runner plan.steps.length 1 plan.steps state record result final :=
    execute_course plan runner state
  have presents := course.steps_prefix
  refine ⟨course.recorded [], presents, course.linked, ?_⟩
  cases ends : result with
  | ok outcomes =>
      obtain ⟨presented, answers, reaches⟩ := course.completed ends
      have lengths : outcomes.length = plan.steps.length := by
        rw [← presented, List.length_map, ← List.length_map (f := Presentation.answer), answers,
          List.length_map]
      exact ⟨.inl ⟨outcomes, rfl, presented, answers, lengths, reaches⟩, fun _ => reaches⟩
  | error error =>
      obtain ⟨done, failing, split, outcomes, answer, reaches⟩ := course.aborted ends
      have taken : record.map Presentation.step = plan.steps.take (done.length + 1) := by
        rw [List.prefix_iff_eq_take.1 presents, split]
        simp
      rw [Nat.add_comm 1] at reaches
      refine ⟨.inr ⟨done, failing, error, split, outcomes, answer, taken, rfl, reaches⟩, ?_⟩
      intro silent
      rw [reaches, silent, split, last_reached_append]

end Plan

end Provision
