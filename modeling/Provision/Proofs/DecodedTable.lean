import Provision.Proofs.ByteOrder
import Provision.Proofs.ListedTable

/-!
# The table of a text

Once the releases of a text have been read, its table is settled by them: it is refused exactly if a
version stands among them twice, and otherwise it does not depend on their order. Its versions are
listed in the order of their bytes.
-/

namespace Provision.ReleaseTable

variable {table other : ReleaseTable} {releases others : List Release}

/-- Tables are the same if they hold the same releases, in whatever order these were listed. -/
theorem Holds.eq_of_perm (holds : Holds table releases) (holdsToo : Holds other others)
    (reordered : releases.Perm others) : table = other := by
  have same : table.releases = other.releases := by
    refine Dictionary.ext_get? fun version => Option.ext fun release => ?_
    rw [← get?, ← get?, holds version release, holdsToo version release, reordered.mem_iff]
  cases table
  cases other
  exact congrArg mk same

theorem Holds.mem_versions_iff (holds : Holds table releases) {version : String} :
    version ∈ table.versions ↔ version ∈ releases.map Release.version := by
  rw [List.mem_map]
  exact Dictionary.mem_keys_iff.trans (exists_congr (holds version))

theorem of_releases_eq_ok (made : ofReleases releases = .ok table) :
    (releases.map Release.version).Nodup ∧ Holds table releases := by
  have ends := ending releases
  rw [made] at ends
  cases ends with
  | table distinct holds => exact ⟨distinct, holds⟩

theorem of_releases_eq_error {fault : TableFault} (refused : ofReleases releases = .error fault) :
    ∃ before release after, releases = before ++ release :: after ∧
      (before.map Release.version).Nodup ∧ release.version ∈ before.map Release.version ∧
      fault = .duplicateVersion release.version := by
  have ends := ending releases
  rw [refused] at ends
  cases ends with
  | repeated split distinct again => exact ⟨_, _, _, split, distinct, again, rfl⟩

theorem of_releases_of_distinct (distinct : (releases.map Release.version).Nodup) :
    ∃ table, ofReleases releases = .ok table := by
  cases answered : ofReleases releases with
  | ok table => exact ⟨table, rfl⟩
  | error fault =>
      obtain ⟨before, release, after, split, _, again, _⟩ := of_releases_eq_error answered
      rw [split, List.map_append] at distinct
      have apart := (List.nodup_append.1 distinct).2.2 _ again release.version (by simp)
      exact absurd rfl apart

theorem parse_eq_ok_iff {content : String} (decoded : Release.parseAll content = .ok releases) :
    parse content = .ok table ↔ ofReleases releases = .ok table := by
  rw [parse_of_parse_all decoded]
  cases ofReleases releases <;> simp [Except.mapError]

theorem parse_eq_error {content : String} (decoded : Release.parseAll content = .ok releases)
    {error : ProvisionError} (refused : parse content = .error error) :
    ∃ fault, ofReleases releases = .error fault ∧ error = .releaseTable fault := by
  rw [parse_of_parse_all decoded] at refused
  cases answered : ofReleases releases with
  | ok table =>
      rw [answered] at refused
      cases refused
  | error fault =>
      rw [answered] at refused
      cases refused
      exact ⟨fault, rfl, rfl⟩

/-- The releases of a text have a table exactly if their versions are distinct. The table answers each
version with its release and no other version, lists the versions in the order of their bytes, and is the
table of every text with these releases in whatever order. Otherwise the text is refused because of the
first release whose version stands before it. -/
theorem parse_of_decoded {content : String} (decoded : Release.parseAll content = .ok releases) :
    ((∃ table, parse content = .ok table) ↔ (releases.map Release.version).Nodup) ∧
      (∀ table, parse content = .ok table →
        (∀ version release, table.get? version = some release ↔
          release ∈ releases ∧ release.version = version) ∧
        table.versions.Pairwise (fun earlier later => Utf8.encode earlier < Utf8.encode later) ∧
        (∀ version, version ∈ table.versions ↔ version ∈ releases.map Release.version) ∧
        ∀ other others, Release.parseAll other = .ok others → others.Perm releases →
          parse other = .ok table) ∧
      ∀ error, parse content = .error error →
        ∃ before release after, releases = before ++ release :: after ∧
          (before.map Release.version).Nodup ∧ release.version ∈ before.map Release.version ∧
          error = .releaseTable (.duplicateVersion release.version) ∧
          error.message =
            "Invalid release table: duplicate entry for version " ++ release.version := by
  refine ⟨⟨?_, fun distinct => ?_⟩, ?_, ?_⟩
  · rintro ⟨table, answered⟩
    exact (of_releases_eq_ok ((parse_eq_ok_iff decoded).1 answered)).1
  · obtain ⟨table, made⟩ := of_releases_of_distinct distinct
    exact ⟨table, (parse_eq_ok_iff decoded).2 made⟩
  · intro table answered
    obtain ⟨distinct, holds⟩ := of_releases_eq_ok ((parse_eq_ok_iff decoded).1 answered)
    refine ⟨holds, table.releases.keys_ascend, fun _ => holds.mem_versions_iff, ?_⟩
    intro other others decodedToo reordered
    obtain ⟨same, made⟩ := of_releases_of_distinct
      ((reordered.map Release.version).nodup_iff.2 distinct)
    rw [parse_eq_ok_iff decodedToo, made, (of_releases_eq_ok made).2.eq_of_perm holds reordered]
  · intro error answered
    obtain ⟨fault, refused, rfl⟩ := parse_eq_error decoded answered
    obtain ⟨before, release, after, split, distinct, again, rfl⟩ := of_releases_eq_error refused
    exact ⟨before, release, after, split, distinct, again, rfl, rfl⟩

/-- The text that lists releases, each with its fields in the order of their declaration. -/
def listing (releases : List Release) : String :=
  Release.listed (releases.map fun release => (release, [.version, .archive, .installer]))

theorem parse_all_listing (releases : List Release) :
    Release.parseAll (listing releases) = .ok releases := by
  have lists := @Release.listed_lists
    (releases.map fun release => (release, [.version, .archive, .installer])) (by simp)
  rw [List.map_map, show Prod.fst ∘ _ = (id : Release → Release) from rfl, List.map_id] at lists
  exact Release.parse_all_of_lists lists

theorem known_releases_have_one_table :
    (∃ table, parse (listing knownReleases) = .ok table ∧
      parse (listing knownReleases.reverse) = .ok table ∧
      (table.get? "1.8.21").map Release.installer = some "hdf\\HDF5-1.8.21-win64.msi" ∧
      "1.10.0" ∈ table.versions) ∧
    parse (listing (knownReleases ++ knownReleases.reverse)) =
      .error (.releaseTable (.duplicateVersion "1.10.0")) := by
  constructor
  · have read := parse_of_decoded (parse_all_listing knownReleases)
    obtain ⟨table, answered⟩ := read.1.2 (by decide)
    obtain ⟨answers, _, lists, others⟩ := read.2.1 table answered
    have found := (answers "1.8.21" _).2 ⟨List.mem_cons_self, rfl⟩
    refine ⟨table, answered, ?_, by rw [found]; rfl, (lists "1.10.0").2 (by decide)⟩
    exact others _ _ (parse_all_listing knownReleases.reverse) (List.reverse_perm _)
  · have read := parse_of_decoded (parse_all_listing (knownReleases ++ knownReleases.reverse))
    cases answered : parse (listing (knownReleases ++ knownReleases.reverse)) with
    | ok table => exact absurd (read.1.1 ⟨table, answered⟩) (by decide)
    | error error =>
        obtain ⟨before, release, after, split, distinct, again, same, _⟩ := read.2.2 error answered
        rw [same]
        -- Only the third release has its version before it, and none twice.
        match before with
        | [] => cases again
        | [_] =>
            cases split
            exact absurd again (by decide)
        | [_, _] =>
            cases split
            rfl
        | [_, _, _] =>
            cases split
            exact absurd distinct (by decide)
        | _ :: _ :: _ :: _ :: _ => simp [knownReleases] at split

end Provision.ReleaseTable
