import Provision.Environment.Delta

/-!
# Plans

Every action is planned before anything happens: a plan is a list of steps, each of which fetches a
file or runs a command. Whatever can be wrong with the settings is found while planning, so a plan can
only fail at a step.
-/

namespace Provision

inductive CommandKind where
  | installer
  | ordinary
  deriving DecidableEq, Repr

structure Command where
  program : String
  arguments : List String := []
  bindings : Dictionary String String := .empty
  kind : CommandKind := .ordinary
  deriving DecidableEq

namespace Command

def argument (command : Command) (argument : String) : Command :=
  { command with arguments := command.arguments ++ [argument] }

def withArguments (command : Command) (arguments : List String) : Command :=
  { command with arguments := command.arguments ++ arguments }

def withBindings (command : Command) (bindings : Dictionary String String) : Command :=
  { command with bindings }

def asInstaller (command : Command) : Command :=
  { command with kind := .installer }

def text (command : Command) : String :=
  String.intercalate " " (command.program :: command.arguments)

/-- The error of a command that ended with a code other than zero, or without a code. -/
def failure (command : Command) (code : Option Int) : ProvisionError :=
  match command.kind with
  | .installer => .installFailure command.text code
  | .ordinary => .commandFailure command.text code

end Command

inductive Step where
  | download (url destination : String)
  | run (command : Command)
  deriving DecidableEq

def Step.text : Step → String
  | .download url destination => s!"download {url} -> {destination}"
  | .run command => s!"run {command.text}"

/-- What a completed step has to show. A dry run only prints its steps. -/
inductive Outcome where
  | downloaded (path : String) (size : Nat) (digest : String)
  | exited (code : Int)
  | planned
  deriving DecidableEq

structure Plan where
  title : String
  delta : Delta := .empty
  steps : List Step := []
  deriving DecidableEq

namespace Plan

def download (plan : Plan) (url destination : String) : Plan :=
  { plan with steps := plan.steps ++ [.download url destination] }

def run (plan : Plan) (command : Command) : Plan :=
  { plan with steps := plan.steps ++ [.run command] }

def downloads (plan : Plan) : List (String × String) :=
  plan.steps.filterMap fun
    | .download url destination => some (url, destination)
    | .run _ => none

def commands (plan : Plan) : List Command :=
  plan.steps.filterMap fun
    | .run command => some command
    | .download _ _ => none

theorem mem_downloads {plan : Plan} {url destination : String} :
    (url, destination) ∈ plan.downloads ↔ Step.download url destination ∈ plan.steps := by
  simp only [downloads, List.mem_filterMap]
  constructor
  · rintro ⟨step, member, is⟩
    cases step with
    | run command => cases is
    | download otherUrl otherDestination =>
        cases is
        exact member
  · intro member
    exact ⟨_, member, rfl⟩

theorem mem_commands {plan : Plan} {command : Command} :
    command ∈ plan.commands ↔ Step.run command ∈ plan.steps := by
  simp only [commands, List.mem_filterMap]
  constructor
  · rintro ⟨step, member, is⟩
    cases step with
    | download url destination => cases is
    | run other =>
        cases is
        exact member
  · intro member
    exact ⟨_, member, rfl⟩

end Plan

end Provision
