import Provision.Environment.Delta

/-!
# Look-ups after a change

What each variable is once a delta has been laid over a snapshot. Every look-up is that of the search
path, of a variable that the delta sets, or of the snapshot below it.
-/

namespace Provision

/-- An empty value counts as unset already when it is looked up. -/
theorem Snapshot.filter_get (snapshot : Snapshot) (name : String) :
    ((snapshot.get? name).filter fun value => !value.isEmpty) = snapshot.get? name := by
  simp [Snapshot.get?, Option.filter_filter]

namespace Delta

theorem get_set (delta : Delta) (name value asked : String) :
    (delta.set name value).bindings.get? asked =
      if asked = name then some value else delta.bindings.get? asked :=
  Dictionary.get?_insert delta.bindings name value asked

/-- Directories in front of the snapshot's search path, as it is looked up. -/
theorem search_path_of_snapshot (delta : Delta) (snapshot : Snapshot) :
    delta.searchPath (snapshot.get? Variable.searchPath) =
      if delta.prepends = [] then none
      else some (String.intercalate Settings.searchPathSeparator
        (delta.prepends.reverse ++ (snapshot.get? Variable.searchPath).toList)) := by
  simp only [searchPath, searchEntries, Snapshot.filter_get, List.isEmpty_iff]

theorem get_overrides (delta : Delta) (snapshot : Snapshot) (name : String) :
    (delta.overrides snapshot).get? name =
      if name = Variable.searchPath then
        (delta.searchPath (snapshot.get? Variable.searchPath)).or (delta.bindings.get? name)
      else delta.bindings.get? name := by
  unfold overrides
  cases delta.searchPath (snapshot.get? Variable.searchPath) with
  | none => simp
  | some path =>
      rw [Dictionary.get?_insert]
      split <;> rfl

theorem get_apply (delta : Delta) (snapshot : Snapshot) (name : String) :
    (delta.apply snapshot).bindings.get? name =
      ((delta.overrides snapshot).get? name).or (snapshot.bindings.get? name) :=
  Dictionary.get?_overlay snapshot.bindings (delta.overrides snapshot) name

/-- Apart from the search path, a delta changes what it sets and nothing else. -/
theorem get_apply_of_ne (delta : Delta) (snapshot : Snapshot) {name : String}
    (other : name ≠ Variable.searchPath) :
    (delta.apply snapshot).bindings.get? name =
      (delta.bindings.get? name).or (snapshot.bindings.get? name) := by
  rw [get_apply, get_overrides, if_neg other]

end Delta

end Provision
