import Provision.Proofs.Environment
import Provision.TestRun

/-!
# The environment of the tests

What a test run shows the build tool: the library's directory, the search path and the pinned version
are settled by six variables and the installed programs, and all other variables are handed on.
-/

namespace Provision.TestRun

variable {snapshot : Snapshot} {find : String → Option Installation}

/-- The version that the tests are to see, if it is to be pinned and there is one. -/
def pinned? (snapshot : Snapshot) : Option String :=
  match snapshot.get? Variable.pinVersion, snapshot.get? Variable.libraryVersion with
  | some _, some version => some version
  | _, _ => none

/-- Directories in front of the search path of a snapshot. -/
def inFront (directories : List String) (snapshot : Snapshot) : String :=
  String.intercalate Settings.searchPathSeparator
    (directories ++ (snapshot.get? Variable.searchPath).toList)

theorem managed_directory_eq (root : String) :
    managedDirectory root = root ++ "\\envs\\testenv" := by
  rw [managedDirectory, String.append_assoc]
  rfl

theorem get_managed_delta (root name : String) :
    (managedDelta root).bindings.get? name =
      if name = Variable.libraryDirectory then some (managedDirectory root) else none :=
  Delta.get_set Delta.empty Variable.libraryDirectory (managedDirectory root) name

theorem prepends_managed_delta (root : String) :
    (managedDelta root).prepends =
      [managedDirectory root ++ "\\Scripts", managedDirectory root ++ "\\Library\\bin",
        managedDirectory root ++ "\\"] := by
  have written : (managedDelta root).prepends =
      Settings.managedSubdirectories.map fun name => managedDirectory root ++ "\\" ++ name := rfl
  rw [written]
  simp only [Settings.managedSubdirectories, List.map_cons, List.map_nil, String.append_assoc]
  rfl

theorem get_direct_delta (found : Option Installation) (name : String) :
    (directDelta found).bindings.get? name = none := by
  cases found <;> rfl

theorem prepends_direct_delta (found : Option Installation) :
    (directDelta found).prepends = (found.map Installation.binDirectory).toList := by
  cases found <;> rfl

@[simp] theorem prepends_pin (snapshot : Snapshot) (delta : Delta) :
    (pin snapshot delta).prepends = delta.prepends := by
  unfold pin
  split
  · split <;> rfl
  · rfl

theorem get_pin (snapshot : Snapshot) (delta : Delta) (name : String) :
    (pin snapshot delta).bindings.get? name =
      if name = Variable.pinnedVersion then (pinned? snapshot).or (delta.bindings.get? name)
      else delta.bindings.get? name := by
  unfold pin pinned? Snapshot.isSet
  cases snapshot.get? Variable.pinVersion with
  | none => simp
  | some flag =>
      cases snapshot.get? Variable.libraryVersion with
      | none => simp
      | some version =>
          simp only [Option.isSome_some, if_true, Delta.get_set]
          split <;> rfl

theorem unset_of_requested (unset : LibrarySource.requested snapshot = .ok none) :
    snapshot.get? Variable.librarySource = none := by
  unfold LibrarySource.requested at unset
  split at unset
  · assumption
  · split at unset <;> cases unset

theorem not_managed_of_direct
    (direct : LibrarySource.requested snapshot = .ok (some .direct) ∨
      snapshot.get? Variable.librarySource = none) :
    LibrarySource.requested snapshot ≠ .ok (some .managed) := by
  intro managed
  rcases direct with direct | unset
  · rw [direct] at managed
    cases managed
  · rw [LibrarySource.requested, unset] at managed
    cases managed

/-- A planned test run shows the library in one of two ways, which the requested source decides. -/
theorem library_delta_cases {shown : Delta} (settled : libraryDelta snapshot find = .ok shown) :
    (LibrarySource.requested snapshot = .ok (some .managed) ∧
        ∃ root, snapshot.get? Variable.managerRoot = some root ∧ shown = managedDelta root) ∨
      ((LibrarySource.requested snapshot = .ok (some .direct) ∨
          snapshot.get? Variable.librarySource = none) ∧
        shown = directDelta (find Settings.libraryDisplayName)) := by
  unfold libraryDelta source at settled
  cases requested : LibrarySource.requested snapshot with
  | error error =>
      rw [requested] at settled
      cases settled
  | ok choice =>
      rw [requested] at settled
      cases choice with
      | none =>
          cases settled
          exact .inr ⟨.inr (unset_of_requested requested), rfl⟩
      | some source =>
          cases source with
          | direct =>
              cases settled
              exact .inr ⟨.inl rfl, rfl⟩
          | managed =>
              cases root : snapshot.get? Variable.managerRoot with
              | none => simp [Except.map, Snapshot.require, root] at settled
              | some root' =>
                  simp only [Except.map, Option.getD_some, Snapshot.require, root] at settled
                  cases settled
                  exact .inl ⟨rfl, root', rfl, rfl⟩

theorem plan_eq_ok {plan : Plan} (planned : TestRun.plan snapshot find = .ok plan) :
    ∃ shown, libraryDelta snapshot find = .ok shown ∧
      plan = planWith snapshot (pin snapshot shown) := by
  unfold TestRun.plan delta at planned
  cases settled : libraryDelta snapshot find with
  | error error =>
      rw [settled] at planned
      cases planned
  | ok shown =>
      rw [settled] at planned
      cases planned
      exact ⟨shown, rfl, rfl⟩

/-- The commands of a planned test run get what its plan changes. -/
theorem bindings_of_step {plan : Plan} {command : Command}
    (planned : TestRun.plan snapshot find = .ok plan) (member : Step.run command ∈ plan.steps) :
    command.bindings = plan.delta.overrides snapshot := by
  obtain ⟨shown, _, rfl⟩ := plan_eq_ok planned
  have either : Step.run command = .run (buildCommand ["build", "-vv"]
        ((pin snapshot shown).overrides snapshot)) ∨
      Step.run command = .run (buildCommand ["test", "-v", "--all"]
        ((pin snapshot shown).overrides snapshot)) := by
    simpa [planWith, Plan.run] using member
  rcases either with build | test
  · cases build
    rfl
  · cases test
    rfl

theorem requested_of_text {text : String} {source : LibrarySource}
    (asked : snapshot.get? Variable.librarySource = some text)
    (named : LibrarySource.parse? text = some source) :
    LibrarySource.requested snapshot = .ok (some source) := by
  rw [LibrarySource.requested, asked]
  simp only [named]

theorem plan_of_managed {root : String}
    (requested : LibrarySource.requested snapshot = .ok (some .managed))
    (found : snapshot.get? Variable.managerRoot = some root) :
    TestRun.plan snapshot find = .ok (planWith snapshot (pin snapshot (managedDelta root))) := by
  have settled : libraryDelta snapshot find = .ok (managedDelta root) := by
    simp [libraryDelta, source, requested, Except.map, Snapshot.require, found]
  simp [TestRun.plan, delta, settled, Except.map]

/-- Nothing but the library's directory is set in order to show the library. -/
theorem get_library_delta {shown : Delta} (settled : libraryDelta snapshot find = .ok shown)
    {name : String} (other : name ≠ Variable.libraryDirectory) :
    shown.bindings.get? name = none := by
  rcases library_delta_cases settled with ⟨_, root, _, managed⟩ | ⟨_, direct⟩
  · rw [managed, get_managed_delta, if_neg other]
  · rw [direct, get_direct_delta]

theorem search_path_not_set {shown : Delta} (settled : libraryDelta snapshot find = .ok shown) :
    (pin snapshot shown).bindings.get? Variable.searchPath = none := by
  rw [get_pin, if_neg (by decide)]
  exact get_library_delta settled (by decide)

/-- The search path of the commands: that of the environment, unless directories stand in front. -/
theorem get_search_path {shown : Delta} (settled : libraryDelta snapshot find = .ok shown) :
    ((pin snapshot shown).apply snapshot).bindings.get? Variable.searchPath =
      if shown.prepends = [] then snapshot.bindings.get? Variable.searchPath
      else some (inFront shown.prepends.reverse snapshot) := by
  rw [Delta.get_apply, Delta.get_overrides, if_pos rfl, Delta.search_path_of_snapshot, prepends_pin,
    search_path_not_set settled]
  split
  · rfl
  · rfl

/-- A planned test run builds and tests with the same variables, which laid over the environment are the
plan's changes. A managed library is shown by its directory and three directories in front of the search
path, a direct one by the directory of its programs if it is installed. The version is the requested one
if it is pinned, and no other variable differs from the environment. -/
theorem tests_see_the_library {plan : Plan} (planned : TestRun.plan snapshot find = .ok plan) :
    ∃ bindings : Dictionary String String,
      plan.steps =
          [.run { program := "cargo", arguments := ["build", "-vv"], bindings, kind := .ordinary },
            .run { program := "cargo", arguments := ["test", "-v", "--all"], bindings,
                   kind := .ordinary }] ∧
        ({ bindings := snapshot.bindings.overlay bindings } : Snapshot) =
          plan.delta.apply snapshot ∧
        let child := plan.delta.apply snapshot
        (LibrarySource.requested snapshot = .ok (some .managed) ∨
            LibrarySource.requested snapshot = .ok (some .direct) ∨
              snapshot.get? Variable.librarySource = none) ∧
          (LibrarySource.requested snapshot = .ok (some .managed) →
            ∃ root, snapshot.get? Variable.managerRoot = some root ∧
              let directory := root ++ "\\envs\\testenv"
              child.bindings.get? Variable.libraryDirectory = some directory ∧
                child.bindings.get? Variable.searchPath =
                  some (inFront [directory ++ "\\", directory ++ "\\Library\\bin",
                    directory ++ "\\Scripts"] snapshot)) ∧
          (LibrarySource.requested snapshot = .ok (some .direct) ∨
              snapshot.get? Variable.librarySource = none →
            child.bindings.get? Variable.libraryDirectory =
                snapshot.bindings.get? Variable.libraryDirectory ∧
              child.bindings.get? Variable.searchPath =
                match find "HDF5" with
                | some installation => some (inFront [installation.binDirectory] snapshot)
                | none => snapshot.bindings.get? Variable.searchPath) ∧
          child.bindings.get? Variable.pinnedVersion =
            (match snapshot.get? Variable.pinVersion, snapshot.get? Variable.libraryVersion with
              | some _, some version => some version
              | _, _ => snapshot.bindings.get? Variable.pinnedVersion) ∧
          ∀ name, name ≠ Variable.libraryDirectory → name ≠ Variable.searchPath →
            name ≠ Variable.pinnedVersion →
              child.bindings.get? name = snapshot.bindings.get? name := by
  obtain ⟨shown, settled, rfl⟩ := plan_eq_ok planned
  refine ⟨(pin snapshot shown).overrides snapshot, rfl, rfl, ?_⟩
  intro child
  have unpinned : Variable.libraryDirectory ≠ Variable.pinnedVersion := by decide
  have looksUp {name : String} (other : name ≠ Variable.searchPath) :
      child.bindings.get? name =
        ((pin snapshot shown).bindings.get? name).or (snapshot.bindings.get? name) :=
    Delta.get_apply_of_ne (pin snapshot shown) snapshot other
  have directory : child.bindings.get? Variable.libraryDirectory =
      (shown.bindings.get? Variable.libraryDirectory).or
        (snapshot.bindings.get? Variable.libraryDirectory) := by
    rw [looksUp (by decide), get_pin, if_neg unpinned]
  have path : child.bindings.get? Variable.searchPath =
      if shown.prepends = [] then snapshot.bindings.get? Variable.searchPath
      else some (inFront shown.prepends.reverse snapshot) := get_search_path settled
  have sources := library_delta_cases settled
  refine ⟨?_, ?_, ?_, ?_, ?_⟩
  · rcases sources with ⟨managed, _⟩ | ⟨direct, _⟩
    · exact .inl managed
    · exact .inr direct
  · intro managed
    rcases sources with ⟨_, root, found, same⟩ | ⟨direct, _⟩
    · refine ⟨root, found, ?_, ?_⟩
      · rw [directory, same, get_managed_delta, if_pos rfl, managed_directory_eq]
        rfl
      · rw [path, same, prepends_managed_delta, ← managed_directory_eq]
        rfl
    · exact absurd managed (not_managed_of_direct direct)
  · intro direct
    rcases sources with ⟨managed, _⟩ | ⟨_, same⟩
    · exact absurd managed (not_managed_of_direct direct)
    · refine ⟨?_, ?_⟩
      · rw [directory, same, get_direct_delta]
        rfl
      · rw [path, same, prepends_direct_delta, Settings.libraryDisplayName]
        cases find "HDF5" <;> rfl
  · rw [looksUp (by decide), get_pin, if_pos rfl, get_library_delta settled unpinned.symm]
    unfold pinned?
    cases snapshot.get? Variable.pinVersion with
    | none => rfl
    | some flag => cases snapshot.get? Variable.libraryVersion <;> rfl
  · intro name notDirectory notPath notPinned
    rw [looksUp notPath, get_pin, if_neg notPinned, get_library_delta settled notDirectory]
    rfl

/-- An environment that asks for a managed library and a pinned version, and has a search path. -/
def pinningEnvironment : Snapshot :=
  .ofPairs [("H5_SOURCE", "Conda"), ("CONDA", "C:\\Miniconda"), ("PATH", "C:\\Windows"),
    ("PIN_VERSION", "1"), ("H5_VERSION", "1.8.21"), ("HDF5_VERSION", "1.10.0"), ("HOME", "")]

theorem pinning_tests_see_the_library :
    ∃ plan, TestRun.plan pinningEnvironment (fun _ => none) = .ok plan ∧
      let child := plan.delta.apply pinningEnvironment
      child.bindings.get? "HDF5_DIR" = some "C:\\Miniconda\\envs\\testenv" ∧
        child.bindings.get? "PATH" = some ("C:\\Miniconda\\envs\\testenv\\:" ++
          "C:\\Miniconda\\envs\\testenv\\Library\\bin:" ++
            "C:\\Miniconda\\envs\\testenv\\Scripts:C:\\Windows") ∧
        child.bindings.get? "HDF5_VERSION" = some "1.8.21" ∧
        child.bindings.get? "HOME" = some "" := by
  have asked : pinningEnvironment.get? Variable.librarySource = some "Conda" := by decide +kernel
  have requested : LibrarySource.requested pinningEnvironment = .ok (some .managed) :=
    requested_of_text asked (by decide +kernel)
  have root : pinningEnvironment.get? Variable.managerRoot = some "C:\\Miniconda" := by
    decide +kernel
  have planned : TestRun.plan pinningEnvironment (fun _ => none) =
      .ok (planWith pinningEnvironment
        (pin pinningEnvironment (managedDelta "C:\\Miniconda"))) := plan_of_managed requested root
  obtain ⟨_, _, _, _, shows, _, version, others⟩ := tests_see_the_library planned
  obtain ⟨found, same, directory, path⟩ := shows requested
  rw [root] at same
  cases same
  refine ⟨_, planned, directory, path.trans ?_, version.trans ?_, (others "HOME" ?_ ?_ ?_).trans ?_⟩
  all_goals decide +kernel

end Provision.TestRun
