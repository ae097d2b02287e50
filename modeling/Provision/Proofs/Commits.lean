import Provision.Proofs.TestEnvironment

/-!
# Changes in several deltas

A plan collects its changes in one delta. Here they are cut into pieces of which each is a delta that is
applied to the environment of those before. As long as the search path is not set itself and no empty
directory stands in front of it, the cuts cannot be told from the environment in the end. The delta of a
test run is made of such changes.
-/

namespace Provision

inductive Change where
  | set (name value : String)
  | prepend (directory : String)

namespace Change

/-- What callers keep to: the search path is only changed by directories, and these have names. -/
def IsProper : Change → Prop
  | .set name _ => name ≠ Variable.searchPath
  | .prepend directory => directory ≠ ""

def directory? : Change → Option String
  | .set _ _ => none
  | .prepend directory => some directory

end Change

namespace Delta

def change (delta : Delta) : Change → Delta
  | .set name value => delta.set name value
  | .prepend directory => delta.prepend directory

def ofChanges (changes : List Change) : Delta := changes.foldl change empty

end Delta

theorem Snapshot.ext_get? {left right : Snapshot}
    (same : ∀ name, left.bindings.get? name = right.bindings.get? name) : left = right :=
  congrArg Snapshot.mk (Dictionary.ext_get? same)

/-- The environment after pieces of changes, of which each is applied to what those before have made. -/
def Snapshot.committed (snapshot : Snapshot) (pieces : List (List Change)) : Snapshot :=
  pieces.foldl (fun reached piece => (Delta.ofChanges piece).apply reached) snapshot

namespace Delta

variable {changes first second : List Change}

/-! ## What the changes amount to -/

theorem prepends_change (delta : Delta) (change : Change) :
    (delta.change change).prepends = delta.prepends ++ change.directory?.toList := by
  cases change <;> simp [Delta.change, set, prepend, Change.directory?]

theorem prepends_foldl (delta : Delta) (changes : List Change) :
    (changes.foldl change delta).prepends = delta.prepends ++ changes.filterMap Change.directory? := by
  induction changes generalizing delta with
  | nil => simp
  | cons change changes ih =>
      rw [List.foldl_cons, ih, prepends_change, List.append_assoc]
      cases change <;> simp [Change.directory?, List.filterMap_cons]

theorem prepends_of_changes (changes : List Change) :
    (ofChanges changes).prepends = changes.filterMap Change.directory? :=
  prepends_foldl empty changes

theorem get_change (delta : Delta) (change : Change) (name : String) :
    (delta.change change).bindings.get? name =
      ((empty.change change).bindings.get? name).or (delta.bindings.get? name) := by
  cases change with
  | prepend directory => rfl
  | set bound value =>
      simp only [Delta.change, get_set]
      split <;> rfl

theorem get_foldl (delta : Delta) (changes : List Change) (name : String) :
    (changes.foldl change delta).bindings.get? name =
      ((ofChanges changes).bindings.get? name).or (delta.bindings.get? name) := by
  induction changes generalizing delta with
  | nil => rfl
  | cons change changes ih =>
      rw [ofChanges, List.foldl_cons, List.foldl_cons, ih, ih (empty.change change), get_change,
        Option.or_assoc]

/-- Of two lists of changes the later one decides what is set. -/
theorem get_of_append (first second : List Change) (name : String) :
    (ofChanges (first ++ second)).bindings.get? name =
      ((ofChanges second).bindings.get? name).or ((ofChanges first).bindings.get? name) := by
  rw [ofChanges, List.foldl_append, get_foldl]
  rfl

theorem search_path_unset (proper : ∀ change ∈ changes, change.IsProper) :
    (ofChanges changes).bindings.get? Variable.searchPath = none := by
  induction changes with
  | nil => rfl
  | cons change changes ih =>
      have rest := ih (fun other member => proper other (by simp [member]))
      have head := proper change (by simp)
      rw [ofChanges, List.foldl_cons, get_foldl, rest, Option.none_or]
      cases change with
      | prepend directory => rfl
      | set name value =>
          rw [Delta.change, get_set, if_neg (Ne.symm head)]
          rfl

theorem prepends_named (proper : ∀ change ∈ changes, change.IsProper) :
    "" ∉ (ofChanges changes).prepends := by
  rw [prepends_of_changes]
  intro member
  obtain ⟨change, inside, same⟩ := List.mem_filterMap.1 member
  have named := proper change inside
  cases change with
  | set name value => cases same
  | prepend directory =>
      cases same
      exact named rfl

/-! ## The search path -/

theorem intercalate_intercalate (separator : String) (front : List String) {back : List String}
    (filled : back ≠ []) :
    String.intercalate separator (front ++ [String.intercalate separator back]) =
      String.intercalate separator (front ++ back) := by
  by_cases none : front = []
  · simp [none]
  · rw [String.intercalate_append_of_ne_nil none (by simp),
      String.intercalate_append_of_ne_nil none filled, String.intercalate_singleton]

theorem intercalate_ne_empty (separator : String) {first : String} (named : first ≠ "")
    (rest : List String) : String.intercalate separator (first :: rest) ≠ "" := by
  cases rest with
  | nil => simpa using named
  | cons next rest => simp [String.intercalate_cons_cons, named]

theorem search_path_ne_empty {delta : Delta} {base : Option String} {path : String}
    (named : "" ∉ delta.prepends) (found : delta.searchPath base = some path) : path ≠ "" := by
  unfold searchPath at found
  split at found
  · cases found
  · next some =>
      cases found
      have filled : delta.prepends.reverse ≠ [] := by simpa using some
      obtain ⟨directory, rest, front⟩ := List.exists_cons_of_ne_nil filled
      have member : directory ∈ delta.prepends := by
        rw [← List.mem_reverse, front]
        simp
      rw [searchEntries, front, List.cons_append]
      apply intercalate_ne_empty
      intro empty
      exact named (empty ▸ member)

theorem get_path_of_apply {delta : Delta} (unset : delta.bindings.get? Variable.searchPath = none)
    (named : "" ∉ delta.prepends) (snapshot : Snapshot) :
    (delta.apply snapshot).get? Variable.searchPath =
      (delta.searchPath (snapshot.get? Variable.searchPath)).or
        (snapshot.get? Variable.searchPath) := by
  rw [Snapshot.get?, get_apply, get_overrides, if_pos rfl, unset, Option.or_none]
  cases found : delta.searchPath (snapshot.get? Variable.searchPath) with
  | none => rfl
  | some path =>
      have filled := search_path_ne_empty named found
      simp [Option.filter_some, filled]

theorem prepends_of_append (first second : List Change) :
    (ofChanges (first ++ second)).prepends =
      (ofChanges first).prepends ++ (ofChanges second).prepends := by
  simp only [prepends_of_changes, List.filterMap_append]

/-- The second piece puts its directories in front of the path that the first one has made. -/
theorem search_path_of_append (proper : ∀ change ∈ first, change.IsProper) (snapshot : Snapshot) :
    ((ofChanges second).searchPath
        (((ofChanges first).apply snapshot).get? Variable.searchPath)).or
          ((ofChanges first).searchPath (snapshot.get? Variable.searchPath)) =
      (ofChanges (first ++ second)).searchPath (snapshot.get? Variable.searchPath) := by
  have reached := get_path_of_apply (search_path_unset proper) (prepends_named proper) snapshot
  simp only [search_path_of_snapshot, prepends_of_append] at reached ⊢
  rw [reached]
  -- A piece without directories leaves the path as it is, so only two with directories are joined.
  by_cases noneBefore : (ofChanges first).prepends = []
  · simp [noneBefore]
  · by_cases noneBehind : (ofChanges second).prepends = []
    · simp [noneBehind]
    · have filled : (ofChanges first).prepends.reverse ++
          (snapshot.get? Variable.searchPath).toList ≠ [] := by simp [noneBefore]
      have joined := intercalate_intercalate Settings.searchPathSeparator
        (ofChanges second).prepends.reverse filled
      simp [noneBefore, noneBehind, joined]

/-! ## Cuts -/

theorem apply_of_append (proper : ∀ change ∈ first ++ second, change.IsProper)
    (snapshot : Snapshot) :
    (ofChanges second).apply ((ofChanges first).apply snapshot) =
      (ofChanges (first ++ second)).apply snapshot := by
  have properFirst : ∀ change ∈ first, change.IsProper := fun change member =>
    proper change (List.mem_append_left _ member)
  have properSecond : ∀ change ∈ second, change.IsProper := fun change member =>
    proper change (List.mem_append_right _ member)
  apply Snapshot.ext_get?
  intro name
  by_cases path : name = Variable.searchPath
  · rw [path, get_apply, get_apply, get_apply, get_overrides, get_overrides, get_overrides]
    simp only [if_pos, search_path_unset properFirst, search_path_unset properSecond,
      search_path_unset proper, Option.or_none]
    rw [← Option.or_assoc, search_path_of_append properFirst]
  · rw [get_apply_of_ne _ _ path, get_apply_of_ne _ _ path, get_apply_of_ne _ _ path, get_of_append,
      Option.or_assoc]

/-- Wherever changes are cut, and into how many pieces, the environment in the end is that of one delta
with all of them. -/
theorem committed_of_cut (snapshot : Snapshot) {changes : List Change}
    (proper : ∀ change ∈ changes, change.IsProper) {pieces : List (List Change)}
    (cut : pieces.flatten = changes) :
    snapshot.committed pieces = (ofChanges changes).apply snapshot := by
  subst cut
  -- The first piece changes the snapshot that the others start from.
  induction pieces generalizing snapshot with
  | nil => rfl
  | cons piece pieces ih =>
      have rest : ∀ change ∈ pieces.flatten, change.IsProper := by
        intro change member
        apply proper change
        rw [List.flatten_cons]
        exact List.mem_append_right _ member
      rw [List.flatten_cons] at proper ⊢
      rw [← apply_of_append proper snapshot, ← ih _ rest]
      rfl

/-- The search path of a snapshot may be empty, and a piece may hold no change. -/
theorem directories_cut_from_settings :
    (∀ change ∈ [.prepend "a", .set "X" "1", .prepend "b", .set "X" "2"], Change.IsProper change) ∧
      let snapshot := Snapshot.ofPairs [("PATH", ""), ("X", "0")]
      let reached := snapshot.committed
        [[.prepend "a", .set "X" "1"], [], [.prepend "b"], [.set "X" "2"]]
      reached = (ofChanges [.prepend "a", .set "X" "1", .prepend "b", .set "X" "2"]).apply snapshot ∧
        reached.get? "PATH" = some "b:a" ∧ reached.get? "X" = some "2" := by
  have proper : ∀ change ∈ [.prepend "a", .set "X" "1", .prepend "b", .set "X" "2"],
      Change.IsProper change := by
    simp [Change.IsProper, Variable.searchPath]
  refine ⟨proper, committed_of_cut _ proper rfl, ?_, ?_⟩
  · decide +kernel
  · decide +kernel

/-- A search path that is set does count in the next delta, but not in its own. -/
example :
    let snapshot := Snapshot.ofPairs [("PATH", "o")]
    (snapshot.committed [[.set "PATH" "p"], [.prepend "a"]]).get? "PATH" = some "a:p" ∧
      (snapshot.committed [[.set "PATH" "p", .prepend "a"]]).get? "PATH" = some "a:o" := by
  decide +kernel

/-! ## The callers -/

def IsProper (delta : Delta) : Prop :=
  ∃ changes, (∀ change ∈ changes, Change.IsProper change) ∧ delta = ofChanges changes

theorem is_proper_empty : empty.IsProper := ⟨[], by simp, rfl⟩

theorem IsProper.change {delta : Delta} (proper : delta.IsProper) {change : Change}
    (properToo : change.IsProper) : (delta.change change).IsProper := by
  obtain ⟨changes, properChanges, rfl⟩ := proper
  refine ⟨changes ++ [change], ?_, ?_⟩
  · intro other member
    rcases List.mem_append.1 member with before | last
    · exact properChanges other before
    · rw [List.mem_singleton.1 last]
      exact properToo
  · rw [ofChanges, ofChanges, List.foldl_append]
    rfl

theorem IsProper.set {delta : Delta} (proper : delta.IsProper) {name : String} (value : String)
    (other : name ≠ Variable.searchPath) : (delta.set name value).IsProper :=
  @IsProper.change delta proper (.set name value) other

theorem IsProper.prepend {delta : Delta} (proper : delta.IsProper) {directory : String}
    (named : directory ≠ "") : (delta.prepend directory).IsProper :=
  @IsProper.change delta proper (.prepend directory) named

end Delta

namespace TestRun

variable {snapshot : Snapshot} {find : String → Option Installation}

theorem managed_delta_proper (root : String) : (managedDelta root).IsProper := by
  have named (subdirectory : String) : managedDirectory root ++ "\\" ++ subdirectory ≠ "" := by simp
  apply Delta.IsProper.prepend _ (named _)
  apply Delta.IsProper.prepend _ (named _)
  apply Delta.IsProper.prepend _ (named _)
  exact Delta.is_proper_empty.set _ (by decide)

theorem direct_delta_proper (found : Option Installation) : (directDelta found).IsProper := by
  cases found with
  | none => exact Delta.is_proper_empty
  | some installation =>
      apply Delta.is_proper_empty.prepend
      unfold Installation.binDirectory
      split <;> simp

theorem pin_proper {delta : Delta} (proper : delta.IsProper) : (pin snapshot delta).IsProper := by
  unfold pin
  split
  · split
    · exact proper.set _ (by decide)
    · exact proper
  · exact proper

theorem planned_delta_proper {plan : Plan} (planned : TestRun.plan snapshot find = .ok plan) :
    plan.delta.IsProper := by
  obtain ⟨shown, settled, rfl⟩ := plan_eq_ok planned
  apply pin_proper
  rcases library_delta_cases settled with ⟨_, root, _, rfl⟩ | ⟨_, rfl⟩
  · exact managed_delta_proper root
  · exact direct_delta_proper _

end TestRun

end Provision
