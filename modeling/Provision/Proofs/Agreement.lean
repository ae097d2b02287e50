import Provision.Proofs.Planning
import Provision.Proofs.TestEnvironment

/-!
# Tests of what was installed

The installation of the library and the run of the tests are planned by themselves, from the same
variables. Where an installation is planned, the tests look for the library where it is put, and a pinned
version is the one that is installed.
-/

namespace Provision

/-! ## What an installation does -/

namespace Plan

/-- A command of the plan has the package manager create an environment of a name, with a version of the
library in it. -/
def Creates (plan : Plan) (name version : String) : Prop :=
  ∃ command ∈ plan.commands, command.program = "conda" ∧
    command.arguments = ["create", "-y", "-n", name, "hdf5==" ++ version]

/-- The plan fetches the archive of a release, and one of its commands runs the installer in it. -/
def Fetches (plan : Plan) (release : Release) : Prop :=
  (∃ destination, Step.download release.url destination ∈ plan.steps) ∧
    ∃ command ∈ plan.commands, command.program = "msiexec" ∧ release.installer ∈ command.arguments

/-- The commands of the plan see the environment of a name below the root of the package manager: its
directory, and three directories in front of the search path. -/
def Sees (plan : Plan) (snapshot : Snapshot) (root name : String) : Prop :=
  let directory := root ++ "\\envs\\" ++ name
  ∀ command ∈ plan.commands,
    command.bindings.get? "HDF5_DIR" = some directory ∧
      command.bindings.get? "PATH" =
        some (TestRun.inFront [directory ++ "\\", directory ++ "\\Library\\bin",
          directory ++ "\\Scripts"] snapshot)

end Plan

namespace Library

theorem commands_managed_plan (version : String) :
    (managedPlan version).commands = managedSteps version := rfl

theorem commands_direct_plan (version : String) (release : Release) :
    (directPlan version release).commands = [extractCommand, installCommand release] := rfl

theorem managed_creates_iff {name asked version : String} :
    (managedPlan version).Creates name asked ↔ name = "testenv" ∧ asked = version := by
  have requirement : s!"{Settings.managedPackage}=={version}" = "hdf5==" ++ version := by
    simp only [Settings.managedPackage]
    rfl
  have created : ((managerCommand ["create", "-y", "-n", Settings.managedEnvironment]).argument
      s!"{Settings.managedPackage}=={version}").asInstaller.arguments =
        ["create", "-y", "-n", "testenv", "hdf5==" ++ version] := by
    rw [requirement]
    rfl
  unfold Plan.Creates
  rw [commands_managed_plan, managedSteps]
  constructor
  · rintro ⟨command, member, _, arguments⟩
    rcases List.mem_cons.1 member with rfl | later
    · simp [managerCommand, Command.withArguments] at arguments
    · rcases List.mem_cons.1 later with rfl | last
      · simp [managerCommand, Command.withArguments] at arguments
      · rw [List.mem_singleton.1 last, created] at arguments
        simp only [List.cons.injEq, String.append_right_inj, and_true, true_and] at arguments
        exact ⟨arguments.1.symm, arguments.2.symm⟩
  · rintro ⟨rfl, rfl⟩
    exact ⟨_, by simp, rfl, created⟩

theorem direct_not_creates (version : String) (release : Release) (name asked : String) :
    ¬ (directPlan version release).Creates name asked := by
  rintro ⟨command, member, program, _⟩
  rw [commands_direct_plan] at member
  rcases List.mem_cons.1 member with rfl | last
  · simp [extractCommand, Command.withArguments] at program
  · rw [List.mem_singleton.1 last] at program
    simp [installCommand, Command.withArguments, Command.asInstaller] at program

theorem direct_fetches (version : String) (release : Release) :
    (directPlan version release).Fetches release := by
  refine ⟨⟨Settings.archiveFile, ?_⟩, installCommand release, ?_, rfl, ?_⟩
  · simp [directPlan, Plan.download, Plan.run]
  · simp [commands_direct_plan]
  · simp [installCommand, Command.withArguments, Command.asInstaller]

end Library

/-! ## What the tests see -/

namespace TestRun

variable {snapshot : Snapshot} {find : String → Option Installation} {tests : Plan}

/-- The tests of a direct library are planned whatever the environment, and those of a managed one unless
its root is missing. -/
theorem error_of_installed {error : ProvisionError}
    (refused : TestRun.plan snapshot find = .error error) :
    (LibrarySource.requested snapshot = .ok (some .managed) →
        error = .missingConfiguration "CONDA") ∧
      LibrarySource.requested snapshot ≠ .ok (some .direct) := by
  have unsettled : libraryDelta snapshot find = .error error := error_of_map (error_of_map refused)
  unfold libraryDelta source at unsettled
  constructor
  · intro managed
    rw [managed] at unsettled
    have missing : snapshot.require Variable.managerRoot = .error error := error_of_map unsettled
    unfold Snapshot.require at missing
    split at missing
    · cases missing
    · cases missing
      rfl
  · intro direct
    rw [direct] at unsettled
    cases unsettled

theorem commands_of_planned (planned : TestRun.plan snapshot find = .ok tests) :
    ∃ command, command ∈ tests.commands := by
  obtain ⟨shown, _, rfl⟩ := plan_eq_ok planned
  exact ⟨_, List.mem_cons_self⟩

/-- The commands of a planned test run get what shows the library, and the version on top. -/
theorem looked_up_of_planned (planned : TestRun.plan snapshot find = .ok tests) :
    ∃ shown, libraryDelta snapshot find = .ok shown ∧ ∀ command ∈ tests.commands,
      command.bindings.get? Variable.libraryDirectory =
          shown.bindings.get? Variable.libraryDirectory ∧
        command.bindings.get? Variable.searchPath =
          (if shown.prepends = [] then none else some (inFront shown.prepends.reverse snapshot)) ∧
        command.bindings.get? Variable.pinnedVersion = pinned? snapshot := by
  obtain ⟨shown, settled, same⟩ := plan_eq_ok planned
  refine ⟨shown, settled, fun command member => ?_⟩
  have bindings : command.bindings = (pin snapshot shown).overrides snapshot := by
    rw [bindings_of_step planned (Plan.mem_commands.1 member), same]
    rfl
  rw [bindings]
  refine ⟨?_, ?_, ?_⟩
  · rw [Delta.get_overrides, if_neg (by decide), get_pin, if_neg (by decide)]
  · rw [Delta.get_overrides, if_pos rfl, search_path_not_set settled, Option.or_none,
      Delta.search_path_of_snapshot, prepends_pin]
    rfl
  · rw [Delta.get_overrides, if_neg (by decide), get_pin, if_pos rfl,
      get_library_delta settled (by decide), Option.or_none]

theorem sees_of_managed {name : String} (planned : TestRun.plan snapshot find = .ok tests)
    (managed : LibrarySource.requested snapshot = .ok (some .managed)) :
    (∃ root, snapshot.get? "CONDA" = some root ∧ tests.Sees snapshot root name) ↔
      name = "testenv" := by
  obtain ⟨shown, settled, looksUp⟩ := looked_up_of_planned planned
  rcases library_delta_cases settled with ⟨_, root, found, same⟩ | ⟨direct, _⟩
  · rw [same, get_managed_delta, if_pos rfl, prepends_managed_delta, managed_directory_eq] at looksUp
    constructor
    · rintro ⟨other, alsoFound, sees⟩
      obtain ⟨command, member⟩ := commands_of_planned planned
      have directory := (looksUp command member).1.symm.trans (sees command member).1
      cases found.symm.trans alsoFound
      -- Both directories stand below the same root, so their names are the same too.
      have names : root ++ "\\envs\\" ++ "testenv" = root ++ "\\envs\\" ++ name := by
        rw [← Option.some.inj directory, String.append_assoc]
        rfl
      exact ((String.append_right_inj _).1 names).symm
    · rintro rfl
      refine ⟨root, found, fun command member => ?_⟩
      obtain ⟨directory, path, _⟩ := looksUp command member
      have environment : root ++ "\\envs\\" ++ "testenv" = root ++ "\\envs\\testenv" := by
        rw [String.append_assoc]
        rfl
      rw [environment]
      exact ⟨directory, path⟩
  · exact absurd managed (not_managed_of_direct direct)

theorem not_sees_of_direct {root name : String} (planned : TestRun.plan snapshot find = .ok tests)
    (direct : LibrarySource.requested snapshot = .ok (some .direct)) :
    ¬ tests.Sees snapshot root name := by
  intro sees
  obtain ⟨shown, settled, looksUp⟩ := looked_up_of_planned planned
  rcases library_delta_cases settled with ⟨managed, _⟩ | ⟨_, same⟩
  · exact not_managed_of_direct (.inl direct) managed
  · obtain ⟨command, member⟩ := commands_of_planned planned
    have directory := (looksUp command member).1.symm.trans (sees command member).1
    rw [same, get_direct_delta] at directory
    cases directory

theorem pinned_of_planned {version : String} (planned : TestRun.plan snapshot find = .ok tests)
    (asked : snapshot.get? Variable.libraryVersion = some version)
    (pins : snapshot.isSet Variable.pinVersion = true) :
    ∀ command ∈ tests.commands, command.bindings.get? "HDF5_VERSION" = some version := by
  intro command member
  obtain ⟨shown, _, looksUp⟩ := looked_up_of_planned planned
  obtain ⟨flag, set⟩ := Option.isSome_iff_exists.1 pins
  have pinned : pinned? snapshot = some version := by
    rw [pinned?, set, asked]
  exact (looksUp command member).2.2.trans pinned

/-- Where an installation of the library is planned, it is of the version asked for, which it leaves to
the package manager or looks up among the releases. The tests of the same environment are planned too,
unless the library is managed and the package manager's root is missing. They see the environment that
the installation creates, and none if it creates none, and a pinned version is that of the installation. -/
theorem tests_agree_with_installation {table : ReleaseTable} {install : Plan}
    (installs : Library.plan snapshot table = .ok install)
    (find : String → Option Installation) :
    ∃ version, snapshot.get? Variable.libraryVersion = some version ∧
      ((∃ name, install.Creates name version) ∨
        ∃ release, table.get? version = some release ∧ install.Fetches release) ∧
      (∀ error, TestRun.plan snapshot find = .error error →
        error = .missingConfiguration "CONDA" ∧ ∃ name, install.Creates name version) ∧
      ∀ tests, TestRun.plan snapshot find = .ok tests →
        (∀ name, install.Creates name version ↔
          ∃ root, snapshot.get? "CONDA" = some root ∧ tests.Sees snapshot root name) ∧
        (snapshot.isSet Variable.pinVersion = true →
          ∀ command ∈ tests.commands, command.bindings.get? "HDF5_VERSION" = some version) := by
  obtain ⟨version, asked, ⟨managed, rfl⟩ | ⟨direct, release, known, rfl⟩⟩ :=
    Library.plan_cases installs
  · have created : (Library.managedPlan version).Creates "testenv" version :=
      Library.managed_creates_iff.2 ⟨rfl, rfl⟩
    refine ⟨version, asked, .inl ⟨_, created⟩, ?_, ?_⟩
    · intro error refused
      exact ⟨(error_of_installed refused).1 managed, _, created⟩
    · intro tests planned
      refine ⟨fun name => ?_, pinned_of_planned planned asked⟩
      rw [Library.managed_creates_iff, sees_of_managed planned managed]
      simp
  · refine ⟨version, asked, .inr ⟨release, known, Library.direct_fetches version release⟩, ?_, ?_⟩
    · intro error refused
      exact absurd direct (error_of_installed refused).2
    · intro tests planned
      refine ⟨fun name => ?_, pinned_of_planned planned asked⟩
      constructor
      · intro created
        exact absurd created (Library.direct_not_creates version release name version)
      · rintro ⟨root, _, sees⟩
        exact absurd sees (not_sees_of_direct planned direct)

theorem pinning_tests_agree :
    ∃ install tests, Library.plan pinningEnvironment .empty = .ok install ∧
      TestRun.plan pinningEnvironment (fun _ => none) = .ok tests ∧
      install.Creates "testenv" "1.8.21" ∧
      tests.Sees pinningEnvironment "C:\\Miniconda" "testenv" ∧
      ∀ command ∈ tests.commands, command.bindings.get? "HDF5_VERSION" = some "1.8.21" := by
  have asked : pinningEnvironment.get? Variable.librarySource = some "Conda" := by decide +kernel
  have managed : LibrarySource.requested pinningEnvironment = .ok (some .managed) :=
    requested_of_text asked (by decide +kernel)
  have version : pinningEnvironment.get? Variable.libraryVersion = some "1.8.21" := by
    decide +kernel
  have installs : Library.plan pinningEnvironment .empty = .ok (Library.managedPlan "1.8.21") :=
    Library.plan_of_managed managed version
  have root : pinningEnvironment.get? Variable.managerRoot = some "C:\\Miniconda" := by
    decide +kernel
  have planned := @plan_of_managed pinningEnvironment (fun _ => none) _ managed root
  obtain ⟨same, found, _, _, agree⟩ := tests_agree_with_installation installs (fun _ => none)
  cases version.symm.trans found
  obtain ⟨sees, pinned⟩ := agree _ planned
  have created : (Library.managedPlan "1.8.21").Creates "testenv" "1.8.21" :=
    Library.managed_creates_iff.2 ⟨rfl, rfl⟩
  obtain ⟨other, alsoRoot, seen⟩ := (sees "testenv").1 created
  cases root.symm.trans alsoRoot
  exact ⟨_, _, installs, planned, created, seen, pinned (by decide +kernel)⟩

end TestRun

end Provision
