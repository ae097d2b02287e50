import Provision.Proofs.DecodedTable
import Provision.Proofs.LibraryPlan

/-!
# Addresses of releases

The address of a release names its family, its version and its archive, with slashes between them. The
archive comes last and may have slashes of its own. So the address tells version and archive apart as
long as no version has a slash in it, and in a table of such versions no two entries have one address.
Addresses are compared as they are written into a plan, whatever a client makes of them.
-/

namespace Provision

namespace Release

/-! ## Families -/

/-- The family of a version is what stands before its last component. A version of a single component is
its own family. -/
inductive IsFamily (version : String) : String → Prop where
  | cut {family component : String} (single : '.' ∉ component.toList)
      (parts : version = family ++ "." ++ component) : IsFamily version family
  | whole (single : '.' ∉ version.toList) : IsFamily version version

theorem before_last_dot_eq_none_iff {chars : List Char} :
    beforeLastDot? chars = none ↔ '.' ∉ chars := by
  induction chars with
  | nil => simp [beforeLastDot?]
  | cons c rest ih =>
      rw [beforeLastDot?]
      cases cut : beforeLastDot? rest with
      | some before =>
          have inside : '.' ∈ rest := by
            by_contra absent
            rw [ih.2 absent] at cut
            cases cut
          simp [inside]
      | none =>
          have absent := ih.1 cut
          by_cases dot : c = '.'
          · simp [dot]
          · simp [dot, Ne.symm dot, absent]

theorem before_last_dot_of_append (before : List Char) {last : List Char} (single : '.' ∉ last) :
    beforeLastDot? (before ++ '.' :: last) = some before := by
  induction before with
  | nil => simp [beforeLastDot?, before_last_dot_eq_none_iff.2 single]
  | cons c before ih => simp [beforeLastDot?, ih]

theorem parts_of_before_last_dot {chars before : List Char}
    (found : beforeLastDot? chars = some before) :
    ∃ last, '.' ∉ last ∧ chars = before ++ '.' :: last := by
  induction chars generalizing before with
  | nil => cases found
  | cons c rest ih =>
      rw [beforeLastDot?] at found
      cases cut : beforeLastDot? rest with
      | some front =>
          rw [cut] at found
          cases found
          obtain ⟨last, single, parts⟩ := ih cut
          exact ⟨last, single, congrArg (c :: ·) parts⟩
      | none =>
          simp only [cut, Option.ite_none_right_eq_some] at found
          obtain ⟨rfl, same⟩ := found
          cases same
          exact ⟨rest, before_last_dot_eq_none_iff.1 cut, rfl⟩

theorem is_family_iff {release : Release} {family : String} :
    IsFamily release.version family ↔ family = release.family := by
  constructor
  · intro is
    unfold Release.family
    cases is with
    | @cut _ component single parts =>
        have chars : release.version.toList = family.toList ++ '.' :: component.toList := by
          simp [parts]
        rw [chars, before_last_dot_of_append _ single]
        exact String.ofList_toList.symm
    | whole single => rw [before_last_dot_eq_none_iff.2 single]
  · rintro rfl
    unfold Release.family
    cases cut : beforeLastDot? release.version.toList with
    | none => exact .whole (before_last_dot_eq_none_iff.1 cut)
    | some before =>
        obtain ⟨last, single, parts⟩ := parts_of_before_last_dot cut
        have component : '.' ∉ (String.ofList last).toList := by simpa using single
        refine .cut component ?_
        apply String.toList_injective
        simp [parts]

theorem IsFamily.subset {version family : String} (is : IsFamily version family) :
    family.toList ⊆ version.toList := by
  cases is with
  | cut _ parts =>
      rw [parts, String.append_assoc, String.toList_append]
      exact List.subset_append_left _ _
  | whole => exact List.Subset.refl _

theorem family_subset (release : Release) : release.family.toList ⊆ release.version.toList :=
  (is_family_iff.2 rfl).subset

/-! ## Addresses -/

theorem to_list_url (release : Release) : release.url.toList =
    (Settings.libraryServer ++ "/hdf5-").toList ++ (release.family.toList ++ '/' ::
      ("hdf5-".toList ++ (release.version.toList ++ '/' ::
        ("bin/".toList ++ release.archive.toList)))) := by
  simp [url, toString]

/-- Without a slash in the versions an address has one reading. -/
theorem url_eq_iff {release other : Release} (single : '/' ∉ release.version.toList)
    (singleToo : '/' ∉ other.version.toList) :
    release.url = other.url ↔ release.version = other.version ∧ release.archive = other.archive := by
  constructor
  · intro same
    have family : '/' ∉ release.family.toList := fun inside => single (release.family_subset inside)
    have familyToo : '/' ∉ other.family.toList := fun inside => singleToo (other.family_subset inside)
    -- Behind the server's part the family ends at the first slash, and the version at the one after it.
    rw [← String.toList_inj, to_list_url, to_list_url, List.append_cancel_left_eq] at same
    obtain ⟨_, afterFamily⟩ := Text.append_separator_inj family familyToo same
    rw [List.append_cancel_left_eq] at afterFamily
    obtain ⟨version, afterVersion⟩ := Text.append_separator_inj single singleToo afterFamily
    rw [List.append_cancel_left_eq] at afterVersion
    exact ⟨String.toList_injective version, String.toList_injective afterVersion⟩
  · rintro ⟨version, archive⟩
    unfold url family
    rw [version, archive]

/-- A slash in a version may stand where an archive has one. -/
example :
    (⟨"1.8", "x/bin/y", "y.msi"⟩ : Release).url = (⟨"1.8/bin/x", "y", "y.msi"⟩ : Release).url := by
  decide +kernel

end Release

/-! ## Tables -/

namespace ReleaseTable

variable {table : ReleaseTable}

/-- A table that a program can come to hold: that of a text, or the one it has by itself. -/
def IsLoaded (table : ReleaseTable) : Prop :=
  (∃ content, parse content = .ok table) ∨ embedded = .ok table

/-- The table that a program has by itself is that of a text too. -/
theorem IsLoaded.parsed (loaded : table.IsLoaded) : ∃ content, parse content = .ok table :=
  loaded.elim id fun known => ⟨knownText, parse_known.trans known⟩

theorem IsLoaded.made (loaded : table.IsLoaded) : ∃ releases, ofReleases releases = .ok table := by
  obtain ⟨content, parsed⟩ := loaded.parsed
  cases decoded : Release.parseAll content with
  | ok releases => exact ⟨releases, (parse_eq_ok_iff decoded).1 parsed⟩
  | error fault =>
      rw [parse, decoded] at parsed
      cases parsed

theorem IsLoaded.version_of_get (loaded : table.IsLoaded) {version : String} {release : Release}
    (found : table.get? version = some release) : release.version = version := by
  obtain ⟨releases, made⟩ := loaded.made
  obtain ⟨_, holds⟩ := of_releases_eq_ok made
  exact ((holds version release).1 found).2

theorem IsLoaded.version_of_url (loaded : table.IsLoaded)
    (single : ∀ version ∈ table.versions, '/' ∉ version.toList) {version other : String}
    {release another : Release} (found : table.get? version = some release)
    (foundToo : table.get? other = some another) (same : release.url = another.url) :
    version = other := by
  have listed : version ∈ table.versions := Dictionary.mem_keys_iff.2 ⟨release, found⟩
  have listedToo : other ∈ table.versions := Dictionary.mem_keys_iff.2 ⟨another, foundToo⟩
  obtain rfl := loaded.version_of_get found
  obtain rfl := loaded.version_of_get foundToo
  exact ((Release.url_eq_iff (single _ listed) (single _ listedToo)).1 same).1

theorem parse_listing_of_distinct {releases : List Release}
    (distinct : (releases.map Release.version).Nodup) :
    ∃ table, parse (listing releases) = .ok table ∧ Holds table releases := by
  obtain ⟨table, made⟩ := of_releases_of_distinct distinct
  exact ⟨table, (parse_eq_ok_iff (parse_all_listing releases)).2 made, (of_releases_eq_ok made).2⟩

end ReleaseTable

theorem Library.release_of_fetched {snapshot : Snapshot} {table : ReleaseTable} {install : Plan}
    (planned : plan snapshot table = .ok install) {url destination : String}
    (fetched : (url, destination) ∈ install.downloads) :
    ∃ version release, table.get? version = some release ∧ url = release.url ∧
      install = directPlan version release := by
  obtain ⟨version, _, ⟨_, rfl⟩ | ⟨_, release, known, rfl⟩⟩ := plan_cases planned
  · cases fetched
  · have only : (directPlan version release).downloads = [(release.url, Settings.archiveFile)] := rfl
    rw [only, List.mem_singleton] at fetched
    cases fetched
    exact ⟨version, release, known, rfl, rfl⟩

namespace Release

/-- A release whose address ends like that of `genuine`, which it is not. -/
def lookalike : Release where
  version := "1.8"
  archive := "hdf5-1.8/hdf5-1.8.1/bin/a.zip"
  installer := "a.msi"

/-- A release of the family that is the version of `lookalike`. -/
def genuine : Release where
  version := "1.8.1"
  archive := "a.zip"
  installer := "a.msi"

def requestFor (version : String) : Snapshot :=
  .ofPairs [("H5_SOURCE", "msi"), ("H5_VERSION", version)]

end Release

end Provision
