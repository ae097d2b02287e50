import Provision.Log.Event
import Provision.Plan.Basic

/-!
# Running a plan

The steps of a plan are presented to a runner one after the other, until one fails or all are done. A
runner has a state of its own, so an answer may depend on everything that was presented before.
-/

namespace Provision

/-- Whatever performs steps: it answers each with an outcome or with the error that ends the plan, and
takes remarks for its log. -/
structure Runner (σ : Type) where
  perform : Step → σ → Except ProvisionError Outcome × σ
  remark : Log.Event → σ → σ := fun _ state => state

namespace Plan

def beginsStep (number total : Nat) (step : Step) : Log.Event where
  level := .debug
  origin := .plan
  message := s!"step {number}/{total}: {step.text}"

def abortsAt (number : Nat) (error : ProvisionError) : Log.Event where
  level := .debug
  origin := .plan
  message := s!"step {number} failed, aborting: {error.message}"

def presentFrom {σ : Type} (runner : Runner σ) (total number : Nat) :
    List Step → σ → Except ProvisionError (List Outcome) × σ
  | [], state => (.ok [], state)
  | step :: rest, state =>
      match runner.perform step (runner.remark (beginsStep number total step) state) with
      | (.error error, after) => (.error error, runner.remark (abortsAt number error) after)
      | (.ok outcome, after) =>
          match presentFrom runner total (number + 1) rest after with
          | (.ok outcomes, final) => (.ok (outcome :: outcomes), final)
          | (.error error, final) => (.error error, final)

/-- Presents every step of a plan in order, up to the first failure. -/
def execute {σ : Type} (plan : Plan) (runner : Runner σ) (state : σ) :
    Except ProvisionError (List Outcome) × σ :=
  presentFrom runner plan.steps.length 1 plan.steps state

end Plan

end Provision
