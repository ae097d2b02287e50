import Provision.Proofs.Planning
import Provision.Proofs.TestEnvironment

/-!
# What planning depends on

A plan, or the refusal of one, is settled by the look-ups of a few variables, and that of a test run also
by one look-up among the installed programs. Which of them count depends on others: the releases do not
if the library is managed, the package manager's root does not if it is direct, the search path does not
if nothing is put in front of it, and the version does not if it is not pinned. Since all are looked up,
a variable that is set to nothing counts as one that is not set.
-/

namespace Provision

/-! ## Environments that are looked up alike -/

namespace Snapshot

/-- Two environments answer the look-up of each of these variables alike. -/
def AgreeOn (names : List String) (left right : Snapshot) : Prop :=
  ∀ name ∈ names, left.get? name = right.get? name

def emptied (snapshot : Snapshot) (name : String) : Snapshot :=
  ⟨snapshot.bindings.insert name ""⟩

def without (snapshot : Snapshot) (name : String) : Snapshot :=
  ⟨snapshot.bindings.filter fun other _ => other ≠ name⟩

theorem get_emptied (snapshot : Snapshot) (name asked : String) :
    (snapshot.emptied name).get? asked = if asked = name then none else snapshot.get? asked := by
  unfold get? emptied
  rw [Dictionary.get?_insert]
  split <;> rfl

theorem get_without (snapshot : Snapshot) (name asked : String) :
    (snapshot.without name).get? asked = if asked = name then none else snapshot.get? asked := by
  unfold get? without
  rw [Dictionary.get?_filter snapshot.bindings (fun other => decide (other ≠ name))]
  by_cases same : asked = name <;> simp [same]

theorem get_emptied_eq_get_without (snapshot : Snapshot) (name asked : String) :
    (snapshot.emptied name).get? asked = (snapshot.without name).get? asked := by
  rw [get_emptied, get_without]

variable {left right : Snapshot} {name : String}

theorem require_of_agree (agree : left.get? name = right.get? name) :
    left.require name = right.require name := by
  rw [require, require, agree]

theorem is_set_of_agree (agree : left.get? name = right.get? name) :
    left.isSet name = right.isSet name := by
  rw [isSet, isSet, agree]

end Snapshot

variable {left right : Snapshot}

theorem LibrarySource.requested_of_agree
    (agree : left.get? Variable.librarySource = right.get? Variable.librarySource) :
    requested left = requested right := by
  rw [requested, requested, agree]

/-! ## Installing the library -/

namespace Library

theorem plan_of_agree (agree : left.AgreeOn [Variable.librarySource, Variable.libraryVersion] right)
    (table : ReleaseTable) : plan left table = plan right table := by
  have source := LibrarySource.requested_of_agree (agree Variable.librarySource (by simp))
  have version := Snapshot.require_of_agree (agree Variable.libraryVersion (by simp))
  have asked : request left = request right := by rw [request, request, source, version]
  rw [plan, plan, asked]

/-- A managed library is planned without a look at the releases. -/
theorem plan_table_of_managed
    (managed : LibrarySource.requested left = .ok (some .managed)) (table other : ReleaseTable) :
    plan left table = plan left other := by
  cases version : left.get? Variable.libraryVersion with
  | some text => rw [plan_of_managed managed version, plan_of_managed managed version]
  | none => simp [plan, request, managed, Snapshot.require, version, Except.map]

end Library

/-! ## Running the tests -/

namespace TestRun

variable {find other : String → Option Installation}

/-- Two environments, each with a way to find installed programs, have in common what the plan of the
tests depends on. -/
structure Agree (left right : Snapshot) (find other : String → Option Installation) : Prop where
  source : left.get? Variable.librarySource = right.get? Variable.librarySource
  pins : left.isSet Variable.pinVersion = right.isSet Variable.pinVersion
  version : left.isSet Variable.pinVersion = true →
    left.get? Variable.libraryVersion = right.get? Variable.libraryVersion
  root : LibrarySource.requested left = .ok (some .managed) →
    left.get? Variable.managerRoot = right.get? Variable.managerRoot
  installed :
    LibrarySource.requested left = .ok (some .direct) ∨ left.get? Variable.librarySource = none →
      find Settings.libraryDisplayName = other Settings.libraryDisplayName
  path : ∀ tests, TestRun.plan left find = .ok tests → tests.delta.prepends ≠ [] →
    left.get? Variable.searchPath = right.get? Variable.searchPath

/-- The library is shown alike, whichever source is requested. -/
theorem library_delta_of_agree (agree : Agree left right find other) :
    libraryDelta left find = libraryDelta right other := by
  have same := LibrarySource.requested_of_agree agree.source
  rw [libraryDelta, libraryDelta, source, source, ← same]
  cases requested : LibrarySource.requested left with
  | error error => rfl
  | ok choice =>
      cases choice with
      | none =>
          have found := agree.installed (.inr (unset_of_requested requested))
          exact congrArg (Except.ok ∘ directDelta) found
      | some source =>
          cases source with
          | managed =>
              have root := Snapshot.require_of_agree (agree.root requested)
              exact congrArg (Except.map managedDelta) root
          | direct =>
              have found := agree.installed (.inl requested)
              exact congrArg (Except.ok ∘ directDelta) found

theorem pin_of_agree (agree : Agree left right find other) : pin left = pin right := by
  funext shown
  rw [pin, pin, ← agree.pins]
  split
  · next set => rw [agree.version set]
  · rfl

/-- The search path does not count unless there are directories to put in front of it. -/
theorem overrides_of_agree {changes : Delta}
    (path : changes.prepends ≠ [] →
      left.get? Variable.searchPath = right.get? Variable.searchPath) :
    changes.overrides left = changes.overrides right := by
  have same : changes.searchPath (left.get? Variable.searchPath) =
      changes.searchPath (right.get? Variable.searchPath) := by
    by_cases none : changes.prepends = []
    · simp [Delta.searchPath, none]
    · rw [path none]
  rw [Delta.overrides, Delta.overrides, same]

theorem plan_of_agree (agree : Agree left right find other) :
    TestRun.plan left find = TestRun.plan right other := by
  have changes : delta left find = delta right other := by
    rw [delta, delta, library_delta_of_agree agree, pin_of_agree agree]
  rw [TestRun.plan, TestRun.plan, ← changes]
  cases settled : delta left find with
  | error error => rfl
  | ok shown =>
      have planned : TestRun.plan left find = .ok (planWith left shown) := by
        rw [TestRun.plan, settled]
        rfl
      have overrides : shown.overrides left = shown.overrides right :=
        overrides_of_agree (agree.path _ planned)
      have same : planWith left shown = planWith right shown := by
        rw [planWith, planWith, overrides]
      exact congrArg Except.ok same

end TestRun

/-! ## Planning -/

/-- The toolchain is planned by the channel; the library by its source and its version, and without a
look at the releases if it is managed; the tests by what `TestRun.Agree` lists. Environments that agree
on these have the same plan or are refused for the same reason. Whether a variable is set to nothing or
not set at all makes no difference to any of the plans. -/
theorem planning_reads_documented_variables (left right : Snapshot) :
    (left.get? Variable.channel = right.get? Variable.channel →
        Toolchain.plan left = Toolchain.plan right) ∧
      (left.AgreeOn [Variable.librarySource, Variable.libraryVersion] right →
        (∀ table, Library.plan left table = Library.plan right table) ∧
          (LibrarySource.requested left = .ok (some .managed) →
            ∀ table other, Library.plan left table = Library.plan right other)) ∧
      (∀ find other, TestRun.Agree left right find other →
        TestRun.plan left find = TestRun.plan right other) ∧
      ∀ (snapshot : Snapshot) (name : String),
        Toolchain.plan (snapshot.emptied name) = Toolchain.plan (snapshot.without name) ∧
          (∀ table, Library.plan (snapshot.emptied name) table =
            Library.plan (snapshot.without name) table) ∧
          ∀ find, TestRun.plan (snapshot.emptied name) find =
            TestRun.plan (snapshot.without name) find := by
  refine ⟨fun channel => ?_, fun agree => ⟨Library.plan_of_agree agree, ?_⟩, ?_, ?_⟩
  · rw [Toolchain.plan, Toolchain.plan, Snapshot.require_of_agree channel]
  · intro managed table other
    rw [Library.plan_table_of_managed managed table other]
    exact Library.plan_of_agree agree other
  · intro find other agree
    exact TestRun.plan_of_agree agree
  · intro snapshot name
    have same := snapshot.get_emptied_eq_get_without name
    refine ⟨?_, fun table => ?_, fun find => ?_⟩
    · rw [Toolchain.plan, Toolchain.plan, Snapshot.require_of_agree (same _)]
    · exact Library.plan_of_agree (fun asked _ => same asked) table
    · exact TestRun.plan_of_agree
        { source := same _
          pins := Snapshot.is_set_of_agree (same _)
          version := fun _ => same _
          root := fun _ => same _
          installed := fun _ => rfl
          path := fun _ _ _ => same _ }

/-- An environment that differs from `TestRun.pinningEnvironment` in what does not count. -/
def otherPinningEnvironment : Snapshot :=
  .ofPairs [("CHANNEL", "nightly"), ("H5_SOURCE", "Conda"), ("CONDA", "C:\\Miniconda"),
    ("PATH", "C:\\Windows"), ("PIN_VERSION", "yes"), ("H5_VERSION", "1.8.21"), ("HDF5_DIR", "")]

theorem pinning_environments_are_planned_alike :
    let left := TestRun.pinningEnvironment
    let right := otherPinningEnvironment
    left ≠ right ∧
      (∃ install, Library.plan left .empty = .ok install ∧
        ∀ table, Library.plan right table = .ok install) ∧
      ∃ tests, TestRun.plan left (fun _ => none) = .ok tests ∧
        TestRun.plan right (fun name => some ⟨name, none, "D:\\hdf5"⟩) = .ok tests ∧
        tests.delta.prepends.length = 3 := by
  intro left right
  have asked : left.get? Variable.librarySource = some "Conda" := by decide +kernel
  have managed : LibrarySource.requested left = .ok (some .managed) :=
    TestRun.requested_of_text asked (by decide +kernel)
  have root : left.get? Variable.managerRoot = some "C:\\Miniconda" := by decide +kernel
  have installs : Library.plan left .empty = .ok (Library.managedPlan "1.8.21") :=
    Library.plan_of_managed managed (by decide +kernel)
  have planned := @TestRun.plan_of_managed left (fun _ => none) _ managed root
  obtain ⟨_, library, tests, _⟩ := planning_reads_documented_variables left right
  have agree : left.AgreeOn [Variable.librarySource, Variable.libraryVersion] right := by
    unfold Snapshot.AgreeOn
    decide +kernel
  refine ⟨by decide +kernel, ⟨_, installs, fun table => ?_⟩, _, planned, ?_, by decide +kernel⟩
  · exact ((library agree).2 managed .empty table).symm.trans installs
  · refine (tests (fun _ => none) _ ?_).symm.trans planned
    exact
      { source := agree _ (by simp)
        pins := by decide +kernel
        version := fun _ => agree _ (by simp)
        root := fun _ => by decide +kernel
        installed := fun direct => absurd managed (TestRun.not_managed_of_direct direct)
        path := fun _ _ _ => by decide +kernel }

end Provision
