import Provision.Session

/-!
# What planning answers

Planning looks at the settings and at the releases that the program knows. What it plans is settled by
these alone. Whatever it refuses is one of their errors, and so no error of planning is that of a
process.
-/

namespace Provision

/-! ## Plans -/

theorem Snapshot.require_eq_ok {snapshot : Snapshot} {name value : String}
    (required : snapshot.require name = .ok value) : snapshot.get? name = some value := by
  unfold require at required
  split at required
  · next found =>
      cases required
      exact found
  · cases required

theorem ok_of_map {α β : Type} {result : Except ProvisionError α} {next : α → β} {value : β}
    (answered : result.map next = .ok value) : ∃ before, result = .ok before ∧ value = next before := by
  cases result with
  | error error => cases answered
  | ok before =>
      cases answered
      exact ⟨before, rfl, rfl⟩

theorem Toolchain.plan_eq_ok {snapshot : Snapshot} {install : Plan}
    (planned : plan snapshot = .ok install) :
    ∃ channel, snapshot.get? Variable.channel = some channel ∧ install = planFor channel := by
  obtain ⟨channel, required, rfl⟩ := ok_of_map planned
  exact ⟨channel, Snapshot.require_eq_ok required, rfl⟩

theorem Library.request_eq_ok {snapshot : Snapshot} {source : LibrarySource} {version : String}
    (asked : request snapshot = .ok (source, version)) :
    LibrarySource.requested snapshot = .ok (some source) ∧
      snapshot.get? Variable.libraryVersion = some version := by
  unfold request at asked
  split at asked
  · cases asked
  · cases asked
  · next requested =>
      obtain ⟨before, required, same⟩ := ok_of_map asked
      cases same
      exact ⟨requested, Snapshot.require_eq_ok required⟩

/-- A planned installation is of the requested version, from the requested source: it is left to the
package manager, or is that of the version's release. -/
theorem Library.plan_cases {snapshot : Snapshot} {table : ReleaseTable} {install : Plan}
    (planned : plan snapshot table = .ok install) :
    ∃ version, snapshot.get? Variable.libraryVersion = some version ∧
      (LibrarySource.requested snapshot = .ok (some .managed) ∧ install = managedPlan version ∨
        LibrarySource.requested snapshot = .ok (some .direct) ∧
          ∃ release, table.get? version = some release ∧ install = directPlan version release) := by
  unfold plan at planned
  split at planned
  · cases planned
  · next version asked =>
      obtain ⟨requested, found⟩ := request_eq_ok asked
      cases planned
      exact ⟨version, found, .inl ⟨requested, rfl⟩⟩
  · next version asked =>
      obtain ⟨requested, found⟩ := request_eq_ok asked
      split at planned
      · next release known =>
          cases planned
          exact ⟨version, found, .inr ⟨requested, release, known, rfl⟩⟩
      · cases planned

theorem Library.plan_of_managed {snapshot : Snapshot} {table : ReleaseTable} {version : String}
    (requested : LibrarySource.requested snapshot = .ok (some .managed))
    (found : snapshot.get? Variable.libraryVersion = some version) :
    plan snapshot table = .ok (managedPlan version) := by
  simp [plan, request, requested, Snapshot.require, found, Except.map]

/-! ## Refusals -/

/-- The errors of planning: the settings, or the releases that the program knows, are refused. -/
def ProvisionError.IsOfPlanning : ProvisionError → Prop
  | .missingConfiguration _ | .invalidConfiguration _ _ _ | .unsupportedVersion _ _
  | .releaseTable _ => True
  | _ => False

theorem ProvisionError.IsOfPlanning.exit_code {error : ProvisionError}
    (planning : error.IsOfPlanning) : error.exitCode = 1 := by
  cases error <;> first | rfl | cases planning

theorem error_of_map {α β : Type} {result : Except ProvisionError α} {next : α → β}
    {error : ProvisionError} (failed : result.map next = .error error) : result = .error error := by
  cases result with
  | error other =>
      cases failed
      rfl
  | ok value => cases failed

theorem Snapshot.error_of_require {snapshot : Snapshot} {name : String} {error : ProvisionError}
    (failed : snapshot.require name = .error error) : error.IsOfPlanning := by
  unfold require at failed
  split at failed
  · cases failed
  · cases failed
    trivial

theorem LibrarySource.error_of_requested {snapshot : Snapshot} {error : ProvisionError}
    (failed : requested snapshot = .error error) : error.IsOfPlanning := by
  unfold requested at failed
  split at failed
  · cases failed
  · split at failed
    · cases failed
    · cases failed
      trivial

theorem ReleaseTable.error_of_embedded {error : ProvisionError}
    (failed : embedded = .error error) : error.IsOfPlanning := by
  unfold embedded at failed
  generalize ofReleases knownReleases = table at failed
  cases table with
  | ok table => cases failed
  | error fault =>
      cases failed
      trivial

theorem Library.error_of_request {snapshot : Snapshot} {error : ProvisionError}
    (failed : request snapshot = .error error) : error.IsOfPlanning := by
  unfold request at failed
  split at failed
  · next requested =>
      cases failed
      exact LibrarySource.error_of_requested requested
  · cases failed
    trivial
  · exact Snapshot.error_of_require (error_of_map failed)

theorem Library.error_of_plan {snapshot : Snapshot} {table : ReleaseTable} {error : ProvisionError}
    (failed : plan snapshot table = .error error) : error.IsOfPlanning := by
  unfold plan at failed
  split at failed
  · next requested =>
      cases failed
      exact error_of_request requested
  · cases failed
  · split at failed
    · cases failed
    · cases failed
      trivial

theorem TestRun.error_of_plan {snapshot : Snapshot} {find : String → Option Installation}
    {error : ProvisionError} (failed : plan snapshot find = .error error) : error.IsOfPlanning := by
  have unsettled : libraryDelta snapshot find = .error error := error_of_map (error_of_map failed)
  unfold libraryDelta at unsettled
  split at unsettled
  · next source =>
      cases unsettled
      exact LibrarySource.error_of_requested (error_of_map source)
  · exact Snapshot.error_of_require (error_of_map unsettled)
  · cases unsettled

theorem Session.error_of_plan_for {snapshot : Snapshot} {action : Action} {error : ProvisionError}
    (failed : (planFor snapshot action).1 = .error error) : error.IsOfPlanning := by
  cases action with
  | installToolchain => exact Snapshot.error_of_require (error_of_map failed)
  | installLibrary =>
      cases known : ReleaseTable.embedded with
      | error refused =>
          simp only [planFor, known] at failed
          cases failed
          exact ReleaseTable.error_of_embedded known
      | ok table =>
          simp only [planFor, known] at failed
          exact Library.error_of_plan failed
  | runTests => exact TestRun.error_of_plan failed

end Provision
