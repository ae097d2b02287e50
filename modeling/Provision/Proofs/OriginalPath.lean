import Provision.Proofs.ChildEnvironment
import Provision.Proofs.Effects
import Provision.Proofs.Separator
import Provision.Proofs.TestEnvironment

/-!
# The program's own search path

Directories are put in front of the search path that was read, and only text is read. So the children of
a test run that puts directories in front receive the program's own search path behind them if it is
text, and otherwise receive the directories alone.
-/

namespace Provision

namespace Delta

/-- The search path of a child that directories are put in front of, when the program has one of its
own: only text is kept. -/
def lengthened (delta : Delta) (own : Bytes) : Bytes :=
  Utf8.encode (String.intercalate Settings.searchPathSeparator delta.prepends.reverse) ++
    if (Utf8.decode? own).isSome then Host.Search.separator :: own else []

theorem encode_search_path_separator :
    Utf8.encode Settings.searchPathSeparator = [Host.Search.separator] := by decide +kernel

/-- The search path that is set for a command, as the bytes that its child receives. -/
theorem get_override_search_path {delta : Delta} {surroundings : Host.Surroundings} {own : Bytes}
    (path : surroundings.value? Variable.searchPath = some own) (nonempty : own ≠ [])
    (prepends : delta.prepends ≠ []) :
    ((delta.overrides (Snapshot.capture surroundings.bindings.entries)).get?
      Variable.searchPath).map Utf8.encode = some (delta.lengthened own) := by
  have read : (Snapshot.capture surroundings.bindings.entries).bindings.get? Variable.searchPath =
      Utf8.decode? own := by
    rw [Snapshot.get_capture]
    exact congrArg (·.bind Utf8.decode?) path
  rw [get_overrides, if_pos rfl, search_path_of_snapshot, if_neg prepends]
  cases decoded : Utf8.decode? own with
  | none =>
      have unread : (Snapshot.capture surroundings.bindings.entries).get? Variable.searchPath =
          none := by
        rw [Snapshot.get?, read, decoded]
        rfl
      simp [unread, lengthened, decoded]
  | some text =>
      have same : own = Utf8.encode text := Utf8.eq_encode_of_decode? decoded
      have visible : text.isEmpty = false := by
        rw [Bool.eq_false_iff]
        intro empty
        apply nonempty
        rw [same, String.isEmpty_iff.1 empty]
        rfl
      have seen : (Snapshot.capture surroundings.bindings.entries).get? Variable.searchPath =
          some text := by
        rw [Snapshot.get?, read, decoded]
        simp [visible]
      have reversed : delta.prepends.reverse ≠ [] := by simpa using prepends
      simp only [seen, Option.toList_some]
      rw [String.intercalate_append_of_ne_nil reversed (by simp)]
      simp [lengthened, Utf8.encode_append, encode_search_path_separator, same]

/-- The program's own search path stands at the end of the children's exactly if it is text. -/
theorem ends_with_own_iff (delta : Delta) (own : Bytes) :
    Host.Search.separator :: own <:+ delta.lengthened own ↔ ∃ text, own = Utf8.encode text := by
  unfold lengthened
  constructor
  · intro ends
    split at ends
    · next isText =>
        obtain ⟨text, decoded⟩ := Option.isSome_iff_exists.1 isText
        exact ⟨text, Utf8.eq_encode_of_decode? decoded⟩
    · obtain ⟨front, split⟩ := ends
      rw [List.append_nil] at split
      exact Utf8.text_after_separator (by decide) split.symm
  · rintro ⟨text, rfl⟩
    rw [Utf8.decode?_encode, Option.isSome_some, if_pos rfl]
    exact List.suffix_append _ _

end Delta

/-! ## A machine with a managed library -/

/-- A machine whose search path has the given bytes, and where the tests are to see a managed library. -/
def managedMachine (own : Bytes) : Machine where
  surroundings :=
    { bindings := .ofPairs [(Utf8.encode "PATH", own), (Utf8.encode "H5_SOURCE", Utf8.encode "conda"),
        (Utf8.encode "CONDA", Utf8.encode "/c")]
      directory := [] }

/-- A world with nothing but a build tool in the directory of the managed library. -/
def managedWorld : World where
  files :=
    (Host.FileTree.leadingTo [Utf8.encode "c\\envs\\testenv\\"]).put
      [Utf8.encode "c\\envs\\testenv\\", Utf8.encode "cargo"] (.program (Host.Script.conduct {}))

theorem value_on_managed_machine (own : Bytes) (name : String) :
    (managedMachine own).surroundings.value? name =
      if name = "CONDA" then some (Utf8.encode "/c")
      else if name = "H5_SOURCE" then some (Utf8.encode "conda")
      else if name = "PATH" then some own else none := by
  have same (other : String) : Utf8.encode name = Utf8.encode other ↔ name = other :=
    ⟨fun equal => Utf8.encode_injective equal, congrArg Utf8.encode⟩
  simp only [managedMachine, Host.Surroundings.value?, Dictionary.ofPairs, Dictionary.insertAll,
    List.foldl_cons, List.foldl_nil, Dictionary.get?_insert, Dictionary.get?_empty, same]

theorem plan_on_managed_machine (own : Bytes) :
    ∃ plan, TestRun.plan (Snapshot.capture (managedMachine own).surroundings.bindings.entries)
        Lookup.registry.find = .ok plan ∧ plan.delta.prepends ≠ [] := by
  have reads (name : String) :
      (Snapshot.capture (managedMachine own).surroundings.bindings.entries).bindings.get? name =
        ((managedMachine own).surroundings.value? name).bind Utf8.decode? :=
    Snapshot.get_capture _ name
  have asked : (Snapshot.capture (managedMachine own).surroundings.bindings.entries).get?
      Variable.librarySource = some "conda" := by
    rw [Snapshot.get?, reads, value_on_managed_machine]
    simp [Variable.librarySource, Utf8.decode?_encode]
  have root : (Snapshot.capture (managedMachine own).surroundings.bindings.entries).get?
      Variable.managerRoot = some "/c" := by
    rw [Snapshot.get?, reads, value_on_managed_machine]
    simp [Variable.managerRoot, Utf8.decode?_encode]
  have requested : LibrarySource.requested
      (Snapshot.capture (managedMachine own).surroundings.bindings.entries) =
        .ok (some .managed) :=
    TestRun.requested_of_text asked (by decide +kernel)
  refine ⟨_, TestRun.plan_of_managed requested root, ?_⟩
  simp [TestRun.planWith, Plan.run, TestRun.prepends_managed_delta]

/-! ## What the children receive -/

/-- In a test run that puts directories in front of the search path, each child receives these
directories and behind them what is kept of the program's own search path, which stands at the end
exactly if it is text. -/
theorem Program.original_path_survives_iff_text {machine : Machine} {arguments : List String}
    {invocation : Arguments.Invocation} {plan : Plan} {own : Bytes} (world : World)
    (parsed : Arguments.parse arguments = .ok invocation)
    (asked : invocation.action = .runTests)
    (planned : TestRun.plan (Snapshot.capture machine.surroundings.bindings.entries)
      Lookup.registry.find = .ok plan)
    (prepends : plan.delta.prepends ≠ [])
    (path : machine.surroundings.value? Variable.searchPath = some own) (nonempty : own ≠ []) :
    ∃ started, (run machine arguments world).2.launches = world.launches ++ started ∧
      ∀ launch ∈ started, ∃ received,
        launch.bindings.get? (Utf8.encode Variable.searchPath) = some received ∧
          received = plan.delta.lengthened own ∧
          (Host.Search.separator :: own <:+ received ↔ ∃ text, own = Utf8.encode text) := by
  have settled : Session.planned machine invocation.action = .ok plan := by
    rw [asked]
    exact planned
  obtain ⟨started, launches, each⟩ := launched_run world parsed settled
  refine ⟨started, launches, ?_⟩
  intro launch member
  obtain ⟨command, program, inside, rfl⟩ := each launch member
  refine ⟨plan.delta.lengthened own, ?_, rfl, plan.delta.ends_with_own_iff own⟩
  have overridden := Delta.get_override_search_path path nonempty prepends
  have received := Host.Launch.get_child_bindings machine.surroundings command.bindings
    Variable.searchPath
  rw [TestRun.bindings_of_step planned inside, overridden, Option.some_or] at received
  rw [← TestRun.bindings_of_step planned inside] at received
  exact received

theorem text_path_survives :
    let launches :=
      (Program.run (managedMachine (Utf8.encode "/bin")) ["run-tests"] managedWorld).2.launches
    launches.length = 2 ∧
      ∀ launch ∈ launches, ∃ received,
        launch.bindings.get? (Utf8.encode "PATH") = some received ∧
          Host.Search.separator :: Utf8.encode "/bin" <:+ received := by
  intro launches
  obtain ⟨plan, planned, prepends⟩ := plan_on_managed_machine (Utf8.encode "/bin")
  have path : (managedMachine (Utf8.encode "/bin")).surroundings.value? Variable.searchPath =
      some (Utf8.encode "/bin") := by
    rw [value_on_managed_machine]
    rfl
  have parsed : Arguments.parse ["run-tests"] = .ok { action := .runTests } := rfl
  obtain ⟨started, all, each⟩ := Program.original_path_survives_iff_text managedWorld parsed rfl
    planned prepends path (by decide +kernel)
  have same : launches = started := all
  refine ⟨by decide +kernel, ?_⟩
  intro launch member
  rw [same] at member
  obtain ⟨received, found, _, ends⟩ := each launch member
  exact ⟨received, found, ends.2 ⟨"/bin", rfl⟩⟩

theorem path_of_bytes_is_lost :
    let machine := managedMachine [0x2F, 0xFF]
    let launches := (Program.run machine ["run-tests"] managedWorld).2.launches
    machine.surroundings.value? Variable.searchPath = some [0x2F, 0xFF] ∧
      (∃ plan, TestRun.plan (Snapshot.capture machine.surroundings.bindings.entries)
        Lookup.registry.find = .ok plan ∧ plan.delta.prepends ≠ []) ∧
      launches.length = 2 ∧
      ∀ launch ∈ launches, ∃ received,
        launch.bindings.get? (Utf8.encode Variable.searchPath) = some received ∧
          ¬ Host.Search.separator :: [0x2F, 0xFF] <:+ received := by
  intro machine launches
  refine ⟨?_, plan_on_managed_machine [0x2F, 0xFF], by decide +kernel, ?_⟩
  · rw [value_on_managed_machine]
    rfl
  · have received : launches.map (fun launch =>
          launch.bindings.get? (Utf8.encode Variable.searchPath)) =
        List.replicate 2 (some (Utf8.encode ("/c\\envs\\testenv\\:" ++
          "/c\\envs\\testenv\\Library\\bin:/c\\envs\\testenv\\Scripts"))) := by decide +kernel
    intro launch member
    have found := List.mem_map_of_mem
      (f := fun launch : Host.Launch => launch.bindings.get? (Utf8.encode Variable.searchPath)) member
    rw [received] at found
    exact ⟨_, List.eq_of_mem_replicate found, by decide +kernel⟩

end Provision
