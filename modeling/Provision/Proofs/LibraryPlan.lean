import Mathlib.Data.List.Forall2
import Provision.Proofs.Planning

/-!
# How an installation of the library is planned

An installation is refused for the first of four reasons, and planned if none of them applies. The plan is
that of the package that is asked for, or of the release that stands in the table under its version.
-/

namespace Provision

/-! ## Settings -/

/-- A variable that is not set, or is set to nothing. -/
def Snapshot.Lacks (snapshot : Snapshot) (name : String) : Prop :=
  snapshot.bindings.get? name = none ∨ snapshot.bindings.get? name = some ""

def Snapshot.Holds (snapshot : Snapshot) (name value : String) : Prop :=
  snapshot.bindings.get? name = some value ∧ value ≠ ""

theorem Snapshot.get_eq_none_iff {snapshot : Snapshot} {name : String} :
    snapshot.get? name = none ↔ snapshot.Lacks name := by
  unfold get? Lacks
  cases snapshot.bindings.get? name with
  | none => simp
  | some value => simp [Option.filter_eq_none_iff]

theorem Snapshot.get_eq_some_iff {snapshot : Snapshot} {name value : String} :
    snapshot.get? name = some value ↔ snapshot.Holds name value := by
  unfold get? Holds
  simp [Option.filter_eq_some_iff]

/-! ## Names of sources -/

namespace Text

def IsCapitalOf (capital small : Char) : Prop :=
  'A' ≤ capital ∧ capital ≤ 'Z' ∧ small.toNat = capital.toNat + 32

/-- Texts that differ at most in the case of ASCII letters. -/
def SameButCase (left right : String) : Prop :=
  List.Forall₂ (fun c d => c = d ∨ IsCapitalOf c d ∨ IsCapitalOf d c) left.toList right.toList

theorem to_nat_to_lower (c : Char) :
    c.toLower.toNat = if 65 ≤ c.toNat ∧ c.toNat ≤ 90 then c.toNat + 32 else c.toNat := by
  unfold Char.toLower
  split
  · next capital =>
      have bounds : 65 ≤ c.toNat ∧ c.toNat ≤ 90 := capital
      have small : c.val.toNat ≤ 90 := bounds.2
      rw [if_pos bounds]
      show (c.val + 32).toNat = c.val.toNat + 32
      rw [UInt32.toNat_add]
      exact Nat.mod_eq_of_lt (by simp; omega)
  · next other => exact (if_neg other).symm

theorem to_lower_eq_iff {c d : Char} :
    c.toLower = d.toLower ↔ c = d ∨ IsCapitalOf c d ∨ IsCapitalOf d c := by
  have order (c : Char) : ('A' ≤ c ↔ 65 ≤ c.toNat) ∧ (c ≤ 'Z' ↔ c.toNat ≤ 90) := ⟨Iff.rfl, Iff.rfl⟩
  simp only [IsCapitalOf, order, ← Char.toNat_inj, to_nat_to_lower]
  split <;> split <;> omega

theorem same_but_case_iff {left right : String} :
    SameButCase left right ↔ left.toLower = right.toLower := by
  have letters (text : String) : text.toLower.toList = text.toList.map Char.toLower :=
    String.toList_map
  unfold SameButCase
  simp only [← to_lower_eq_iff]
  rw [← String.toList_inj, letters, letters, ← List.forall₂_eq_eq_eq, List.forall₂_map_left_iff,
    List.forall₂_map_right_iff]

end Text

namespace LibrarySource

def names : LibrarySource → List String
  | .managed => ["conda", "managed"]
  | .direct => ["msi", "direct"]

/-- One of the names of a source, in which the case of letters does not count. -/
def IsNamed (source : LibrarySource) (name : String) : Prop :=
  ∃ accepted ∈ source.names, Text.SameButCase name accepted

theorem is_named_iff {source : LibrarySource} {name : String} :
    source.IsNamed name ↔ name.toLower ∈ source.names := by
  have lower : ∀ accepted ∈ source.names, accepted.toLower = accepted := by
    cases source <;> decide +kernel
  unfold IsNamed
  constructor
  · rintro ⟨accepted, member, same⟩
    rw [Text.same_but_case_iff, lower accepted member] at same
    exact same ▸ member
  · intro member
    exact ⟨_, member, Text.same_but_case_iff.2 (lower _ member).symm⟩

theorem parse_eq_some_iff {name : String} {source : LibrarySource} :
    parse? name = some source ↔ source.IsNamed name := by
  rw [is_named_iff]
  unfold parse?
  generalize name.toLower = lower
  cases source <;> simp only [names] <;> grind

/-- The accepted names are those of the two sources. -/
theorem exists_named_iff {name : String} :
    (∃ source : LibrarySource, source.IsNamed name) ↔
      ∃ known ∈ accepted, Text.SameButCase name known := by
  have listed : accepted = names .managed ++ names .direct := rfl
  constructor
  · rintro ⟨source, known, member, same⟩
    refine ⟨known, ?_, same⟩
    cases source <;> simp [listed, member]
  · rintro ⟨known, member, same⟩
    rw [listed, List.mem_append] at member
    rcases member with managed | direct
    · exact ⟨.managed, known, managed, same⟩
    · exact ⟨.direct, known, direct, same⟩

theorem parse_eq_none_iff {name : String} :
    parse? name = none ↔ ∀ known ∈ accepted, ¬ Text.SameButCase name known := by
  have named := @exists_named_iff name
  simp only [← parse_eq_some_iff] at named
  rw [Option.eq_none_iff_forall_ne_some, ← not_exists, named]
  simp

theorem requested_eq_ok_iff {snapshot : Snapshot} {source : LibrarySource} :
    requested snapshot = .ok (some source) ↔
      ∃ name, snapshot.Holds "H5_SOURCE" name ∧ source.IsNamed name := by
  simp only [← Snapshot.get_eq_some_iff, ← parse_eq_some_iff]
  change _ ↔ ∃ name, snapshot.get? Variable.librarySource = some name ∧ _
  unfold requested
  cases snapshot.get? Variable.librarySource with
  | none => simp
  | some name =>
      simp only [Option.some.injEq, exists_eq_left']
      cases parse? name <;> simp

end LibrarySource

/-! ## Plans -/

namespace Plan

/-- Nothing but commands, of which only the last is an installer; it asks for exactly one version. -/
def InstallsPackage (plan : Plan) (version : String) : Prop :=
  ∃ before last, plan.steps = (before ++ [last]).map Step.run ∧
    (∀ command ∈ before, command.kind = .ordinary) ∧ last.kind = .installer ∧
    last.program = "conda" ∧
    last.arguments = ["create", "-y", "-n", "testenv", "hdf5==" ++ version]

/-- The archive of a release is fetched, what was fetched is unpacked, and the installer in it is run. -/
def InstallsRelease (plan : Plan) (release : Release) : Prop :=
  ∃ archive unpack install,
    plan.steps = [.download release.url archive, .run unpack, .run install] ∧
    unpack.kind = .ordinary ∧ unpack.program = "7z" ∧ unpack.arguments = ["x", archive, "-y"] ∧
    install.kind = .installer ∧ install.program = "msiexec" ∧
    install.arguments = ["/i", release.installer, "/qn"]

end Plan

namespace Library

theorem managed_plan_installs (version : String) :
    (managedPlan version).InstallsPackage version := by
  refine ⟨[managerCommand ["config", "--set", "always_yes", "yes"],
    managerCommand ["config", "--set", "changeps1", "no"]], _, rfl, ?_, rfl, rfl, rfl⟩
  simp [managerCommand, Command.withArguments]

theorem direct_plan_installs (version : String) (release : Release) :
    (directPlan version release).InstallsRelease release :=
  ⟨Settings.archiveFile, extractCommand, installCommand release, rfl, rfl, rfl, rfl, rfl, rfl, rfl⟩

/-! ## Refusals -/

/-- Why an installation is refused. Each reason only counts where those before it do not apply. -/
inductive Refusal (snapshot : Snapshot) (table : ReleaseTable) : ProvisionError → Prop
  | noSource (lacks : snapshot.Lacks "H5_SOURCE") :
      Refusal snapshot table (.missingConfiguration "H5_SOURCE")
  | unknownSource {name : String} (asked : snapshot.Holds "H5_SOURCE" name)
      (unknown : ∀ known ∈ LibrarySource.accepted, ¬ Text.SameButCase name known) :
      Refusal snapshot table (.invalidConfiguration "H5_SOURCE" name LibrarySource.accepted)
  | noVersion {name known : String} (asked : snapshot.Holds "H5_SOURCE" name)
      (accepts : known ∈ LibrarySource.accepted) (same : Text.SameButCase name known)
      (lacks : snapshot.Lacks "H5_VERSION") :
      Refusal snapshot table (.missingConfiguration "H5_VERSION")
  | unsupported {name version : String} (asked : snapshot.Holds "H5_SOURCE" name)
      (direct : LibrarySource.direct.IsNamed name) (requested : snapshot.Holds "H5_VERSION" version)
      (absent : version ∉ table.versions) :
      Refusal snapshot table (.unsupportedVersion version table.versions)

inductive Planned (snapshot : Snapshot) (table : ReleaseTable) (install : Plan) : Prop
  | managed {name version : String} (asked : snapshot.Holds "H5_SOURCE" name)
      (managed : LibrarySource.managed.IsNamed name) (requested : snapshot.Holds "H5_VERSION" version)
      (installs : install.InstallsPackage version)
  | direct {name version : String} {release : Release} (asked : snapshot.Holds "H5_SOURCE" name)
      (direct : LibrarySource.direct.IsNamed name) (requested : snapshot.Holds "H5_VERSION" version)
      (entry : (version, release) ∈ table.releases.entries) (installs : install.InstallsRelease release)

variable {snapshot : Snapshot} {table : ReleaseTable}

theorem get_eq_none_iff {version : String} : table.get? version = none ↔ version ∉ table.versions := by
  rw [ReleaseTable.versions, Dictionary.mem_keys_iff, not_exists, Option.eq_none_iff_forall_ne_some]
  rfl

theorem plan_of_refusal {error : ProvisionError} (refusal : Refusal snapshot table error) :
    plan snapshot table = .error error := by
  cases refusal with
  | noSource lacks =>
      have missing : snapshot.get? "H5_SOURCE" = none := Snapshot.get_eq_none_iff.2 lacks
      simp [plan, request, LibrarySource.requested, Variable.librarySource, missing]
  | @unknownSource name asked unknown =>
      have found : snapshot.get? "H5_SOURCE" = some name := Snapshot.get_eq_some_iff.2 asked
      have unread := LibrarySource.parse_eq_none_iff.2 unknown
      simp [plan, request, LibrarySource.requested, Variable.librarySource, found, unread]
  | noVersion asked accepts same lacks =>
      have missing : snapshot.get? "H5_VERSION" = none := Snapshot.get_eq_none_iff.2 lacks
      obtain ⟨source, named⟩ := LibrarySource.exists_named_iff.2 ⟨_, accepts, same⟩
      have requested := LibrarySource.requested_eq_ok_iff.2 ⟨_, asked, named⟩
      simp [plan, request, requested, Snapshot.require, Variable.libraryVersion, missing, Except.map]
  | @unsupported name version asked direct requested absent =>
      have found : snapshot.get? "H5_VERSION" = some version := Snapshot.get_eq_some_iff.2 requested
      have source := LibrarySource.requested_eq_ok_iff.2 ⟨_, asked, direct⟩
      have unknown := get_eq_none_iff.2 absent
      simp [plan, request, source, Snapshot.require, Variable.libraryVersion, found, Except.map,
        unknown]

theorem plan_of_direct {version : String} {release : Release}
    (requested : LibrarySource.requested snapshot = .ok (some .direct))
    (found : snapshot.get? Variable.libraryVersion = some version)
    (known : table.get? version = some release) :
    plan snapshot table = .ok (directPlan version release) := by
  simp [plan, request, requested, Snapshot.require, found, Except.map, known]

theorem refusal_or_plan (snapshot : Snapshot) (table : ReleaseTable) :
    (∃ error, Refusal snapshot table error) ∨ ∃ install, plan snapshot table = .ok install := by
  -- The settings are looked at in the order of the reasons.
  cases asked : snapshot.get? Variable.librarySource with
  | none => exact .inl ⟨_, .noSource (Snapshot.get_eq_none_iff.1 asked)⟩
  | some name =>
      have holds := Snapshot.get_eq_some_iff.1 asked
      cases read : LibrarySource.parse? name with
      | none => exact .inl ⟨_, .unknownSource holds (LibrarySource.parse_eq_none_iff.1 read)⟩
      | some source =>
          have named := LibrarySource.parse_eq_some_iff.1 read
          have requested := LibrarySource.requested_eq_ok_iff.2 ⟨name, holds, named⟩
          cases found : snapshot.get? Variable.libraryVersion with
          | none =>
              obtain ⟨known, accepts, same⟩ := LibrarySource.exists_named_iff.1 ⟨source, named⟩
              exact .inl ⟨_, .noVersion holds accepts same (Snapshot.get_eq_none_iff.1 found)⟩
          | some version =>
              cases source with
              | managed => exact .inr ⟨_, plan_of_managed requested found⟩
              | direct =>
                  cases known : table.get? version with
                  | some release => exact .inr ⟨_, plan_of_direct requested found known⟩
                  | none =>
                      have absent := get_eq_none_iff.1 known
                      exact .inl ⟨_, .unsupported holds named (Snapshot.get_eq_some_iff.1 found) absent⟩

theorem planned_of_ok {install : Plan} (planned : plan snapshot table = .ok install) :
    Planned snapshot table install := by
  obtain ⟨version, found, ⟨requested, rfl⟩ | ⟨requested, release, known, rfl⟩⟩ := plan_cases planned
  · obtain ⟨name, asked, named⟩ := LibrarySource.requested_eq_ok_iff.1 requested
    exact .managed asked named (Snapshot.get_eq_some_iff.1 found) (managed_plan_installs version)
  · obtain ⟨name, asked, named⟩ := LibrarySource.requested_eq_ok_iff.1 requested
    exact .direct asked named (Snapshot.get_eq_some_iff.1 found) (Dictionary.get?_eq_some_iff.1 known)
      (direct_plan_installs version release)

/-- An installation is refused for the first reason that applies, and is planned exactly if none does.
A planned one leaves the version that is asked for to the package manager, or fetches the release that
the table has for it, unpacks the fetched file and runs the installer. -/
theorem refused_or_planned (snapshot : Snapshot) (table : ReleaseTable) :
    (∀ error, plan snapshot table = .error error ↔ Refusal snapshot table error) ∧
      ((∃ install, plan snapshot table = .ok install) ↔ ¬ ∃ error, Refusal snapshot table error) ∧
      ∀ install, plan snapshot table = .ok install → Planned snapshot table install := by
  have decided := refusal_or_plan snapshot table
  refine ⟨?_, ?_, fun install => planned_of_ok⟩
  · intro error
    constructor
    · intro refused
      rcases decided with ⟨reason, refusal⟩ | ⟨install, planned⟩
      · rw [plan_of_refusal refusal] at refused
        cases refused
        exact refusal
      · rw [planned] at refused
        cases refused
    · exact plan_of_refusal
  · constructor
    · rintro ⟨install, planned⟩ ⟨error, refusal⟩
      rw [plan_of_refusal refusal] at planned
      cases planned
    · intro unrefused
      rcases decided with refusal | planned
      · exact absurd refusal unrefused
      · exact planned

end Library

end Provision
