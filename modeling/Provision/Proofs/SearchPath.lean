import Provision.Environment.Delta
import Provision.Text.Split

/-!
# The entries of a search path

A search path is read entry by entry, between its separators. The path that a delta makes has the entries
of its directories, of the last one first, and behind them those of the original path, in their order.
-/

namespace Provision.SearchPath

def entries (path : String) : List String :=
  (Text.splitOn ':' path.toList).map String.ofList

/-- The entries of the original path; one that is empty has none. -/
def original : Option String → List String
  | none => []
  | some path => if path = "" then [] else entries path

theorem to_list_intercalate (parts : List String) :
    (String.intercalate Settings.searchPathSeparator parts).toList =
      Text.joined ':' (parts.map String.toList) := by
  rw [String.toList_intercalate]
  rfl

theorem entries_intercalate {parts : List String} (filled : parts ≠ []) :
    entries (String.intercalate Settings.searchPathSeparator parts) = parts.flatMap entries := by
  have filledToo : parts.map String.toList ≠ [] := by simpa using filled
  rw [entries, to_list_intercalate, Text.split_on_joined ':' filledToo, List.map_flatMap,
    List.flatMap_map]
  rfl

theorem entries_of_absent {directory : String} (absent : ':' ∉ directory.toList) :
    entries directory = [directory] := by
  simp [entries, List.splitOn_eq_singleton absent]

theorem flat_map_entries_of_absent {directories : List String}
    (absent : ∀ directory ∈ directories, ':' ∉ directory.toList) :
    directories.flatMap entries = directories := by
  induction directories with
  | nil => rfl
  | cons directory directories ih =>
      rw [List.flatMap_cons, entries_of_absent (absent directory (by simp)),
        ih (fun other member => absent other (by simp [member]))]
      rfl

theorem flat_map_entries_filled (base : Option String) :
    (base.filter fun path => !path.isEmpty).toList.flatMap entries = original base := by
  cases base with
  | none => rfl
  | some path =>
      by_cases empty : path = ""
      · simp [original, empty]
      · simp [original, empty, Option.filter_some]

end Provision.SearchPath

namespace Provision.Delta

open SearchPath (entries original)

/-- Without a directory in front of it there is no new search path. With directories its entries are
those of the last one, of the one before, and so on, and then the original ones; each directory is one
entry if it has no separator in it. -/
theorem search_path_entries (delta : Delta) (base : Option String) :
    (delta.prepends = [] → delta.searchPath base = none) ∧
      (delta.prepends ≠ [] → ∃ path, delta.searchPath base = some path ∧
        entries path = delta.prepends.reverse.flatMap entries ++ original base ∧
        ((∀ directory ∈ delta.prepends, ':' ∉ directory.toList) →
          entries path = delta.prepends.reverse ++ original base)) := by
  constructor
  · intro none
    simp [searchPath, none]
  · intro some
    have found : delta.searchPath base =
        .some (String.intercalate Settings.searchPathSeparator (delta.searchEntries base)) := by
      simp [searchPath, some]
    have split : entries (String.intercalate Settings.searchPathSeparator (delta.searchEntries base)) =
        delta.prepends.reverse.flatMap entries ++ original base := by
      rw [SearchPath.entries_intercalate (by simp [searchEntries, some]), searchEntries,
        List.flatMap_append, SearchPath.flat_map_entries_filled]
    refine ⟨_, found, split, ?_⟩
    intro absent
    rw [split, SearchPath.flat_map_entries_of_absent]
    intro directory member
    exact absent directory (List.mem_reverse.1 member)

/-- Entries of a directory with a separator in it, and empty ones, are kept where they stand. -/
example :
    ((((Delta.empty.prepend "a:b").prepend "").searchPath (some ":c:")).map entries) =
      some ["", "a", "b", "", "c", ""] := by
  decide +kernel

end Provision.Delta
