import Mathlib.Data.List.Induction
import Mathlib.Data.List.Nodup
import Provision.Library.Table

/-!
# The table of a list

A list of releases is added to the table release by release. It becomes a table that answers with the
list's own releases if its versions are distinct, and is otherwise refused at the first release whose
version stands in the list before it.
-/

namespace Provision.ReleaseTable

/-- The table answers every version with the release of the list that has it, and no other version. -/
def Holds (table : ReleaseTable) (releases : List Release) : Prop :=
  ∀ version release, table.get? version = some release ↔
    release ∈ releases ∧ release.version = version

theorem holds_empty : Holds empty [] := by
  intro version release
  simp [get?, empty]

theorem Holds.contains_iff {table : ReleaseTable} {releases : List Release}
    (holds : Holds table releases) {version : String} :
    table.releases.contains version = true ↔ version ∈ releases.map Release.version := by
  rw [Dictionary.contains, Option.isSome_iff_exists, List.mem_map]
  exact exists_congr (holds version)

theorem Holds.add {table : ReleaseTable} {releases : List Release} (holds : Holds table releases)
    {release : Release} (new : release.version ∉ releases.map Release.version) :
    ∃ larger, table.add release = .ok larger ∧ Holds larger (releases ++ [release]) := by
  have absent : ¬ table.releases.contains release.version = true := fun present =>
    new (holds.contains_iff.1 present)
  refine ⟨_, if_neg absent, ?_⟩
  intro version other
  have looksUp := holds version other
  rw [get?] at looksUp
  simp only [get?, Dictionary.get?_insert, List.mem_append, List.mem_singleton]
  split
  · next asked =>
      subst asked
      constructor
      · intro same
        cases same
        exact ⟨.inr rfl, rfl⟩
      · rintro ⟨inside | rfl, version⟩
        · exact absurd (List.mem_map.2 ⟨other, inside, version⟩) new
        · rfl
  · next differs =>
      rw [looksUp]
      constructor
      · rintro ⟨inside, version⟩
        exact ⟨.inl inside, version⟩
      · rintro ⟨inside | rfl, version⟩
        · exact ⟨inside, version⟩
        · exact absurd version.symm differs

theorem Holds.refuses {table : ReleaseTable} {releases : List Release} (holds : Holds table releases)
    {release : Release} (known : release.version ∈ releases.map Release.version) :
    table.add release = .error (.duplicateVersion release.version) :=
  if_pos (holds.contains_iff.2 known)

/-- What becomes of a list of releases: a table that holds it, or a fault that names the first version
to stand in it again. -/
inductive Ending (releases : List Release) : Except TableFault ReleaseTable → Prop where
  | table {table : ReleaseTable} (distinct : (releases.map Release.version).Nodup)
      (holds : Holds table releases) : Ending releases (.ok table)
  | repeated {before after : List Release} {release : Release}
      (split : releases = before ++ release :: after)
      (distinct : (before.map Release.version).Nodup)
      (again : release.version ∈ before.map Release.version) :
      Ending releases (.error (.duplicateVersion release.version))

theorem of_releases_concat (releases : List Release) (release : Release) :
    ofReleases (releases ++ [release]) = ofReleases releases >>= (add · release) := by
  rw [ofReleases, List.foldlM_append]
  congr 1
  funext table
  simp

theorem ending (releases : List Release) : Ending releases (ofReleases releases) := by
  -- The fold adds the last release to the table of all before it, so the induction is from the end.
  induction releases using List.reverseRecOn with
  | nil => exact .table .nil holds_empty
  | append_singleton releases release ih =>
      rw [of_releases_concat]
      generalize ofReleases releases = answer at ih
      cases ih with
      | table distinct holds =>
          by_cases known : release.version ∈ releases.map Release.version
          · have refused : (Except.ok _ >>= (add · release)) = .error _ := holds.refuses known
            rw [refused]
            exact .repeated rfl distinct known
          · obtain ⟨larger, added, holdsToo⟩ := holds.add known
            have answered : (Except.ok _ >>= (add · release)) = .ok larger := added
            rw [answered]
            refine .table ?_ holdsToo
            rw [List.map_append, List.map_singleton]
            exact List.nodup_append_comm.1 (List.nodup_cons.2 ⟨known, distinct⟩)
      | @repeated before after other split distinct again =>
          have longer : releases ++ [release] = before ++ other :: (after ++ [release]) := by
            rw [split, List.append_assoc, List.cons_append]
          exact .repeated longer distinct again

theorem Holds.versions_perm {table : ReleaseTable} {releases : List Release}
    (holds : Holds table releases) (distinct : (releases.map Release.version).Nodup) :
    table.versions.Perm (releases.map Release.version) := by
  refine (List.perm_ext_iff_of_nodup table.releases.nodup_keys distinct).2 fun version => ?_
  rw [List.mem_map]
  exact Dictionary.mem_keys_iff.trans (exists_congr (holds version))

end Provision.ReleaseTable
