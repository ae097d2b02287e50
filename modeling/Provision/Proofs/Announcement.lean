import Provision.Proofs.Planning
import Provision.Proofs.Rehearsal
import Provision.Proofs.TestEnvironment

/-!
# The announced environment

A dry run announces variables and directories, which are made from the plan's changes when it is shown;
the commands carry variables that were settled when it was made. `announced` reads the variables back
from the lines, and they are those of every command.
-/

namespace Provision

theorem Dictionary.of_pairs_entries {κ ν : Type} [Ord κ] [DecidableEq κ] [Std.TransOrd κ]
    [Std.LawfulEqOrd κ] (dictionary : Dictionary κ ν) :
    Dictionary.ofPairs dictionary.entries = dictionary := by
  apply ext_get?
  intro key
  rw [ofPairs, get?_insert_all empty dictionary.distinct_keys, get?_empty, Option.or_none]
  rfl

namespace Console

def Line.announced? : Line → Option (String × String)
  | .setting name value => some (name, value)
  | .searchPath path => some (Variable.searchPath, path)
  | _ => none

/-- The directory that a line announces to be put in front of the search path. -/
def Line.prepended? : Line → Option String
  | .prepending directory => some directory
  | _ => none

def announced (lines : List Line) : Dictionary String String :=
  .ofPairs (lines.filterMap Line.announced?)

def prepended (lines : List Line) : List String :=
  lines.filterMap Line.prepended?

end Console

namespace Session

open World

variable {plan : Plan} {snapshot : Snapshot}

/-! ## What a rehearsal announces -/

/-- Of a script only the banner and the search path say something about the environment. -/
theorem filter_map_script {α : Type} {read : Console.Line → Option α}
    (title : ∀ words, read (.title words) = none)
    (steps : ∀ step, (rehearsedLines step).filterMap read = [])
    (ending : ∀ count, read (.rehearsed count) = none) (plan : Plan) (snapshot : Snapshot) :
    (script plan snapshot).filterMap read =
      plan.delta.bindings.entries.filterMap (fun entry => read (.setting entry.1 entry.2)) ++
        plan.delta.prepends.filterMap (fun directory => read (.prepending directory)) ++
        (searchPathLine plan snapshot).filterMap read := by
  have silent : (plan.steps.flatMap rehearsedLines).filterMap read = [] := by
    rw [List.filterMap_flatMap]
    exact List.flatMap_eq_nil_iff.2 fun step _ => steps step
  simp only [script, banner, List.filterMap_append, List.filterMap_cons_none (title _), silent,
    List.filterMap_cons_none (ending _), List.cons_append, List.filterMap_map, List.append_nil,
    List.filterMap_nil]
  rfl

theorem announced_in_script (plan : Plan) (snapshot : Snapshot) :
    (script plan snapshot).filterMap Console.Line.announced? =
      plan.delta.bindings.entries ++
        (plan.delta.searchPath (snapshot.get? Variable.searchPath)).toList.map
          (Variable.searchPath, ·) := by
  rw [filter_map_script (fun _ => rfl) (fun step => by cases step <;> rfl) (fun _ => rfl),
    searchPathLine]
  have settings : plan.delta.bindings.entries.filterMap
      (fun entry => Console.Line.announced? (.setting entry.1 entry.2)) =
        plan.delta.bindings.entries := List.filterMap_some
  have directories : plan.delta.prepends.filterMap
      (fun directory => Console.Line.announced? (.prepending directory)) = [] :=
    List.filterMap_eq_nil_iff.2 fun _ _ => rfl
  rw [settings, directories]
  cases plan.delta.searchPath (snapshot.get? Variable.searchPath) <;> simp [Console.Line.announced?]

theorem prepended_in_script (plan : Plan) (snapshot : Snapshot) :
    Console.prepended (script plan snapshot) = plan.delta.prepends := by
  rw [Console.prepended,
    filter_map_script (fun _ => rfl) (fun step => by cases step <;> rfl) (fun _ => rfl),
    searchPathLine]
  have settings : plan.delta.bindings.entries.filterMap
      (fun entry => Console.Line.prepended? (.setting entry.1 entry.2)) = [] :=
    List.filterMap_eq_nil_iff.2 fun _ _ => rfl
  have directories : plan.delta.prepends.filterMap
      (fun directory => Console.Line.prepended? (.prepending directory)) = plan.delta.prepends :=
    List.filterMap_some
  rw [settings, directories]
  cases plan.delta.searchPath (snapshot.get? Variable.searchPath) <;> simp [Console.Line.prepended?]

/-- What is announced is what the plan's changes come to above the snapshot. -/
theorem announced_script (plan : Plan) (snapshot : Snapshot) :
    Console.announced (script plan snapshot) = plan.delta.overrides snapshot := by
  rw [Console.announced, announced_in_script, Delta.overrides]
  have set := plan.delta.bindings.of_pairs_entries
  cases plan.delta.searchPath (snapshot.get? Variable.searchPath) with
  | none => simpa using set
  | some path =>
      rw [Dictionary.ofPairs, Dictionary.insertAll] at set
      simp [Dictionary.ofPairs, Dictionary.insertAll, set]

theorem search_path_mem_script_iff {path : String} :
    Console.Line.searchPath path ∈ script plan snapshot ↔
      plan.delta.searchPath (snapshot.get? Variable.searchPath) = some path := by
  have banner : Console.Line.searchPath path ∉ banner plan := by
    intro member
    cases (is_banner_of_mem member).1
  have steps : Console.Line.searchPath path ∉ plan.steps.flatMap rehearsedLines := by
    simp only [List.mem_flatMap, not_exists, not_and]
    rintro (⟨url, destination⟩ | command) _ member
    · simp [rehearsedLines, Step.announcement, Step.destinationLine] at member
    · simp [rehearsedLines, Step.announcement, Step.destinationLine] at member
  have shown : Console.Line.searchPath path ∈ searchPathLine plan snapshot ↔
      plan.delta.searchPath (snapshot.get? Variable.searchPath) = some path := by
    rw [searchPathLine]
    cases plan.delta.searchPath (snapshot.get? Variable.searchPath) <;> simp [eq_comm]
  simp [script, banner, steps, shown]

/-! ## What the commands get -/

theorem get_search_path_of_planned {find : String → Option Installation}
    (planned : TestRun.plan snapshot find = .ok plan) :
    (plan.delta.overrides snapshot).get? Variable.searchPath =
      plan.delta.searchPath (snapshot.get? Variable.searchPath) := by
  obtain ⟨shown, settled, rfl⟩ := TestRun.plan_eq_ok planned
  have unset : (TestRun.pin snapshot shown).bindings.get? Variable.searchPath = none :=
    TestRun.search_path_not_set settled
  rw [Delta.get_overrides, if_pos rfl]
  simp [TestRun.planWith, Plan.run, unset]

theorem unchanged_of_installing
    (installs : Toolchain.plan snapshot = .ok plan ∨
      ∃ table, Library.plan snapshot table = .ok plan) :
    plan.delta = .empty ∧ ∀ command ∈ plan.commands, command.bindings = .empty := by
  rcases installs with toolchain | ⟨table, library⟩
  · obtain ⟨channel, _, rfl⟩ := Toolchain.plan_eq_ok toolchain
    refine ⟨rfl, ?_⟩
    simp [Plan.mem_commands, Toolchain.planFor, Plan.run, Plan.download, Toolchain.installCommand,
      Toolchain.versionCommand, Command.asInstaller, Command.argument, Command.withArguments]
  · obtain ⟨version, _, ⟨_, rfl⟩ | ⟨_, release, _, rfl⟩⟩ := Library.plan_cases library
    · refine ⟨rfl, ?_⟩
      simp [Plan.mem_commands, Library.managedPlan, Library.managedSteps, Library.managerCommand,
        Plan.run, Command.asInstaller, Command.argument, Command.withArguments]
    · refine ⟨rfl, ?_⟩
      simp [Plan.mem_commands, Library.directPlan, Library.extractCommand, Library.installCommand,
        Plan.run, Plan.download, Command.asInstaller, Command.withArguments]

end Session

end Provision
