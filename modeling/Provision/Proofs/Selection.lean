import Mathlib.Data.List.Induction
import Mathlib.Data.List.Nodup
import Provision.Installed
import Provision.Proofs.Precedence

/-!
# The program that is selected

Of the listed programs with a name the one with the greatest version is used, and of those with that
version the last one listed. This describes the choice completely: it is made exactly if there is a
program of that name, and programs of other names have no part in it.
-/

namespace Provision.Installation

open Version (Lower AtMost)

/-- At a position of the list stands a program with the name, no other one has a greater version, and
all that follow it have lesser ones. -/
structure LatestAt (listed : List Installation) (name : String) (position : Nat)
    (chosen : Installation) : Prop where
  stands : listed[position]? = some chosen
  named : chosen.displayName = name
  greatest : ∀ entry ∈ listed, entry.displayName = name → AtMost entry.version chosen.version
  last : ∀ later entry, position < later → listed[later]? = some entry →
    entry.displayName = name → Lower entry.version chosen.version

theorem better_of_lower {earlier later : Installation} (lower : Lower later.version earlier.version) :
    better (some earlier) later = some earlier := by
  simp [better, Version.compare_rank_iff.2 lower]

theorem better_of_not_lower {earlier later : Installation}
    (reaches : ¬ Lower later.version earlier.version) : better (some earlier) later = some later := by
  have order : compare (Version.rank later.version) (Version.rank earlier.version) ≠ .lt := by
    intro less
    exact reaches (Version.compare_rank_iff.1 less)
  cases found : compare (Version.rank later.version) (Version.rank earlier.version) <;>
    simp_all [better]

theorem select_concat_of_named {listed : List Installation} {name : String} {entry : Installation}
    (named : entry.displayName = name) :
    select (listed ++ [entry]) name = better (select listed name) entry := by
  simp [select, List.filter_append, named]

theorem select_of_other_name {before after : List Installation} {name : String}
    {entry : Installation} (other : entry.displayName ≠ name) :
    select (before ++ entry :: after) name = select (before ++ after) name := by
  simp [select, List.filter_append, other]

theorem get_concat_iff {listed : List Installation} {entry found : Installation} {position : Nat} :
    (listed ++ [entry])[position]? = some found ↔
      listed[position]? = some found ∨ position = listed.length ∧ found = entry := by
  grind

namespace LatestAt

variable {listed : List Installation} {name : String} {position : Nat}
  {chosen entry : Installation}

/-- A program that does not reach the one chosen so far leaves it chosen. -/
theorem concat (latest : LatestAt listed name position chosen)
    (lower : entry.displayName = name → Lower entry.version chosen.version) :
    LatestAt (listed ++ [entry]) name position chosen := by
  constructor
  · exact get_concat_iff.2 (.inl latest.stands)
  · exact latest.named
  · intro other member named
    rcases List.mem_append.1 member with before | last
    · exact latest.greatest other before named
    · rw [List.mem_singleton.1 last] at named ⊢
      exact .inr (lower named)
  · intro later other behind stands named
    rcases get_concat_iff.1 stands with before | ⟨_, rfl⟩
    · exact latest.last later other behind before named
    · exact lower named

/-- A program that is listed last is chosen if none before it has a greater version. -/
theorem of_last (named : entry.displayName = name)
    (greatest : ∀ other ∈ listed, other.displayName = name →
      AtMost other.version entry.version) :
    LatestAt (listed ++ [entry]) name listed.length entry := by
  constructor
  · simp
  · exact named
  · intro other member alike
    rcases List.mem_append.1 member with before | last
    · exact greatest other before alike
    · rw [List.mem_singleton.1 last]
      exact .inl rfl
  · intro later other behind stands _
    have within := (List.getElem?_eq_some_iff.1 stands).1
    simp only [List.length_append, List.length_singleton] at within
    omega

theorem mem (latest : LatestAt listed name position chosen) : chosen ∈ listed :=
  List.mem_of_getElem? latest.stands

/-- A program behind the latest has a lesser version, and so is not the latest itself. -/
theorem not_before {other : Nat} {rival : Installation} (latest : LatestAt listed name position chosen)
    (latestToo : LatestAt listed name other rival) : ¬ position < other := by
  intro before
  have lower := latest.last other rival before latestToo.stands latestToo.named
  exact (latestToo.greatest chosen latest.mem latest.named).not_lower lower

theorem unique {other : Nat} {rival : Installation} (latest : LatestAt listed name position chosen)
    (latestToo : LatestAt listed name other rival) : chosen = rival := by
  have here : position = other := by
    have notBefore := latest.not_before latestToo
    have notBehind := latestToo.not_before latest
    omega
  have stands := latest.stands
  rw [here, latestToo.stands] at stands
  exact (Option.some.inj stands).symm

end LatestAt

/-- What is selected: nothing if no program has the name, and otherwise the latest one. -/
inductive Choice (listed : List Installation) (name : String) : Option Installation → Prop
  | nothing (absent : ∀ entry ∈ listed, entry.displayName ≠ name) : Choice listed name none
  | latest {position : Nat} {chosen : Installation}
      (latest : LatestAt listed name position chosen) : Choice listed name (some chosen)

theorem choice (listed : List Installation) (name : String) :
    Choice listed name (select listed name) := by
  -- The fold looks at the last program last, so the induction is from the end.
  induction listed using List.reverseRecOn with
  | nil => exact .nothing (by simp)
  | append_singleton listed entry ih =>
      by_cases named : entry.displayName = name
      · rw [select_concat_of_named named]
        generalize select listed name = answer at ih
        cases ih with
        | nothing absent =>
            apply Choice.latest
            apply LatestAt.of_last named
            intro other member alike
            exact absurd alike (absent other member)
        | @latest position chosen latest =>
            by_cases lower : Lower entry.version chosen.version
            · rw [better_of_lower lower]
              exact .latest (latest.concat fun _ => lower)
            · rw [better_of_not_lower lower]
              apply Choice.latest
              apply LatestAt.of_last named
              intro other member alike
              exact (latest.greatest other member alike).trans
                (Version.at_most_of_not_lower lower)
      · rw [select_of_other_name named, List.append_nil]
        generalize select listed name = answer at ih
        cases ih with
        | nothing absent =>
            apply Choice.nothing
            intro other member
            rcases List.mem_append.1 member with before | last
            · exact absent other before
            · rw [List.mem_singleton.1 last]
              exact named
        | latest latest => exact .latest (latest.concat fun alike => absurd alike named)

theorem select_eq_none_iff {listed : List Installation} {name : String} :
    select listed name = none ↔ ∀ entry ∈ listed, entry.displayName ≠ name := by
  have made := choice listed name
  generalize select listed name = answer at made
  cases made with
  | nothing absent => simpa using absent
  | latest latest =>
      simp only [reduceCtorEq, false_iff]
      intro absent
      exact absent _ latest.mem latest.named

theorem select_eq_some_iff {listed : List Installation} {name : String} {chosen : Installation} :
    select listed name = some chosen ↔ ∃ position, LatestAt listed name position chosen := by
  have made := choice listed name
  generalize select listed name = answer at made
  constructor
  · intro found
    rw [found] at made
    cases made with
    | latest latest => exact ⟨_, latest⟩
  · rintro ⟨position, latest⟩
    cases made with
    | nothing absent => exact absurd latest.named (absent chosen latest.mem)
    | latest latestToo => rw [latestToo.unique latest]

/-- Programs of one name with distinct versions have only one that no other one is above. -/
theorem select_of_perm {listed reordered : List Installation} {name : String}
    (reorders : reordered.Perm listed)
    (distinct : ((listed.filter fun entry => entry.displayName = name).map version).Nodup) :
    select reordered name = select listed name := by
  have made := choice reordered name
  generalize select reordered name = answer at made
  cases made with
  | nothing absent =>
      apply Eq.symm
      rw [select_eq_none_iff]
      intro entry member
      exact absent entry (reorders.mem_iff.2 member)
  | @latest position chosen latest =>
      have madeToo := choice listed name
      generalize select listed name = answer at madeToo
      cases madeToo with
      | nothing absent => exact absurd latest.named (absent chosen (reorders.mem_iff.1 latest.mem))
      | @latest other rival latestToo =>
          -- Each of the two stands in both lists, and is the greatest there.
          have chosenToo := reorders.mem_iff.1 latest.mem
          have rivalToo := reorders.mem_iff.2 latestToo.mem
          have same : chosen.version = rival.version :=
            (latestToo.greatest chosen chosenToo latest.named).antisymm
              (latest.greatest rival rivalToo latestToo.named)
          have equal : chosen = rival := by
            apply List.inj_on_of_nodup_map distinct _ _ same
            · simp [chosenToo, latest.named]
            · simp [latestToo.mem, latestToo.named]
          rw [equal]

/-- Nothing is found exactly if no program has the name, and a program is found exactly if it stands
somewhere in the list as the latest of that name. Programs of other names may be left out, and the order
of the list only counts among programs of the same version. -/
theorem found_is_latest (listed : List Installation) (name : String) :
    (Lookup.ofList listed).find name = select listed name ∧
      (select listed name = none ↔ ∀ entry ∈ listed, entry.displayName ≠ name) ∧
      (∀ chosen, select listed name = some chosen ↔
        ∃ position, LatestAt listed name position chosen) ∧
      (∀ before other after, listed = before ++ other :: after → other.displayName ≠ name →
        select listed name = select (before ++ after) name) ∧
      ∀ reordered, reordered.Perm listed →
        ((listed.filter fun entry => entry.displayName = name).map version).Nodup →
        select reordered name = select listed name := by
  refine ⟨rfl, select_eq_none_iff, fun _ => select_eq_some_iff, ?_, ?_⟩
  · intro before other after split different
    rw [split, select_of_other_name different]
  · intro reordered reorders distinct
    exact select_of_perm reorders distinct

/-- A build counts, and among builds of one value the one with more digits; what cannot be read does
not count, and blanks around a version are passed over. -/
example :
    (select
      [ { displayName := "HDF5", displayVersion := some " 1.10.0+01 ", path := "a" },
        { displayName := "HDF5", displayVersion := some "1.10.0+1", path := "b" },
        { displayName := "HDF5 Tools", displayVersion := some "2.0.0", path := "c" },
        { displayName := "HDF5", displayVersion := some "1.10.0+01", path := "d" },
        { displayName := "HDF5", displayVersion := some "1.11.0-rc.1x.", path := "e" },
        { displayName := "HDF5", path := "f" } ] "HDF5").map Installation.path = some "d" := by
  decide +kernel

end Provision.Installation
