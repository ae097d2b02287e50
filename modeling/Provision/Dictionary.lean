/-!
# Dictionaries in key order

A dictionary maps keys to values and lists its entries in strictly ascending key order, so two
dictionaries with the same look-ups are equal (`ext_get?`). Environments, variables set for a child
and release tables are all dictionaries, which is why each of them is shown sorted by name.
-/

namespace Provision

/-- Keys with their values, in strictly ascending order of the keys. -/
structure Dictionary (κ ν : Type) [Ord κ] where
  entries : List (κ × ν)
  ascending : entries.Pairwise fun earlier later => compare earlier.1 later.1 = .lt

namespace Dictionary

variable {κ ν : Type} [Ord κ]

instance [DecidableEq κ] [DecidableEq ν] : DecidableEq (Dictionary κ ν) :=
  fun left right => decidable_of_iff (left.entries = right.entries)
    ⟨fun same => by cases left; cases right; simp_all, fun same => same ▸ rfl⟩

def empty : Dictionary κ ν where
  entries := []
  ascending := .nil

instance : Inhabited (Dictionary κ ν) := ⟨empty⟩

/-- Puts one entry into its place of an ascending list, replacing the value of an equal key. -/
def insertEntry (key : κ) (value : ν) : List (κ × ν) → List (κ × ν)
  | [] => [(key, value)]
  | head :: rest =>
      match compare key head.1 with
      | .lt => (key, value) :: head :: rest
      | .eq => (key, value) :: rest
      | .gt => head :: insertEntry key value rest

def findEntry (key : κ) : List (κ × ν) → Option ν
  | [] => none
  | head :: rest => if compare key head.1 = .eq then some head.2 else findEntry key rest

theorem mem_insert_entry {key : κ} {value : ν} {entry : κ × ν} {entries : List (κ × ν)}
    (inside : entry ∈ insertEntry key value entries) : entry = (key, value) ∨ entry ∈ entries := by
  induction entries with
  | nil => simpa [insertEntry] using inside
  | cons head rest ih =>
      unfold insertEntry at inside
      split at inside
      · simpa using inside
      · rcases List.mem_cons.1 inside with same | later
        · exact .inl same
        · exact .inr (List.mem_cons_of_mem _ later)
      · rcases List.mem_cons.1 inside with same | later
        · exact .inr (same ▸ List.mem_cons_self)
        · exact (ih later).imp id (List.mem_cons_of_mem _)

section Lawful

variable [Std.TransOrd κ] [Std.LawfulEqOrd κ]

theorem ascending_insert_entry (key : κ) (value : ν) {entries : List (κ × ν)}
    (ascending : entries.Pairwise fun earlier later => compare earlier.1 later.1 = .lt) :
    (insertEntry key value entries).Pairwise
      fun earlier later => compare earlier.1 later.1 = .lt := by
  induction entries with
  | nil => simp [insertEntry]
  | cons head rest ih =>
      obtain ⟨above, ordered⟩ := List.pairwise_cons.1 ascending
      unfold insertEntry
      split
      · next below =>
          refine List.pairwise_cons.2 ⟨fun entry inside => ?_, ascending⟩
          rcases List.mem_cons.1 inside with same | later
          · exact same ▸ below
          · exact Std.TransCmp.lt_trans below (above entry later)
      · next same =>
          refine List.pairwise_cons.2 ⟨fun entry inside => ?_, ordered⟩
          rw [Std.LawfulEqCmp.eq_of_compare same]
          exact above entry inside
      · next greater =>
          refine List.pairwise_cons.2 ⟨fun entry inside => ?_, ih ordered⟩
          rcases mem_insert_entry inside with same | later
          · exact same ▸ Std.OrientedCmp.gt_iff_lt.1 greater
          · exact above entry later

def insert (dictionary : Dictionary κ ν) (key : κ) (value : ν) : Dictionary κ ν where
  entries := insertEntry key value dictionary.entries
  ascending := ascending_insert_entry key value dictionary.ascending

end Lawful

def get? (dictionary : Dictionary κ ν) (key : κ) : Option ν :=
  findEntry key dictionary.entries

def contains (dictionary : Dictionary κ ν) (key : κ) : Bool :=
  (dictionary.get? key).isSome

def keys (dictionary : Dictionary κ ν) : List κ :=
  dictionary.entries.map Prod.fst

def size (dictionary : Dictionary κ ν) : Nat :=
  dictionary.entries.length

def isEmpty (dictionary : Dictionary κ ν) : Bool :=
  dictionary.entries.isEmpty

theorem find_entry_eq_none {key : κ} {entries : List (κ × ν)}
    (absent : ∀ entry ∈ entries, compare key entry.1 ≠ .eq) : findEntry key entries = none := by
  induction entries with
  | nil => rfl
  | cons head rest ih =>
      have differs := absent head List.mem_cons_self
      simp [findEntry, differs, ih fun entry inside => absent entry (List.mem_cons_of_mem _ inside)]

@[simp] theorem get?_empty (key : κ) : (empty : Dictionary κ ν).get? key = none := rfl

section LawfulEq

variable [Std.LawfulEqOrd κ]

theorem find_entry_cons [DecidableEq κ] (key : κ) (head : κ × ν) (rest : List (κ × ν)) :
    findEntry key (head :: rest) = if key = head.1 then some head.2 else findEntry key rest := by
  simp only [findEntry, Std.compare_eq_iff_eq]

theorem find_entry_of_absent {key : κ} {entries : List (κ × ν)}
    (absent : ∀ entry ∈ entries, key ≠ entry.1) : findEntry key entries = none := by
  apply find_entry_eq_none
  intro entry inside same
  exact absent entry inside (Std.LawfulEqCmp.eq_of_compare same)

theorem distinct_keys (dictionary : Dictionary κ ν) :
    dictionary.entries.Pairwise fun earlier later => earlier.1 ≠ later.1 := by
  refine dictionary.ascending.imp ?_
  intro earlier later below same
  rw [same, Std.compare_self] at below
  cases below

theorem nodup_keys (dictionary : Dictionary κ ν) : dictionary.keys.Nodup :=
  List.pairwise_map.2 dictionary.distinct_keys

theorem find_entry_is_some_iff [DecidableEq κ] {key : κ} {entries : List (κ × ν)} :
    (findEntry key entries).isSome ↔ key ∈ entries.map Prod.fst := by
  induction entries with
  | nil => simp [findEntry]
  | cons head rest ih =>
      rw [find_entry_cons, List.map_cons, List.mem_cons]
      split
      · next same => simp [same]
      · next differs => simp [differs, ih]

theorem find_entry_eq_some_iff [DecidableEq κ] {key : κ} {value : ν} {entries : List (κ × ν)}
    (distinct : entries.Pairwise fun earlier later => earlier.1 ≠ later.1) :
    findEntry key entries = some value ↔ (key, value) ∈ entries := by
  induction entries with
  | nil => simp [findEntry]
  | cons head rest ih =>
      obtain ⟨apart, distinct⟩ := List.pairwise_cons.1 distinct
      rw [find_entry_cons, List.mem_cons]
      split
      · next same =>
          subst same
          have absent : (head.1, value) ∉ rest := fun later => apart _ later rfl
          simp [absent, Prod.ext_iff, eq_comm]
      · next differs => simp [ih distinct, Prod.ext_iff, differs]

/-- A key is bound to the value that it has in the list of entries. -/
theorem get?_eq_some_iff [DecidableEq κ] {dictionary : Dictionary κ ν} {key : κ} {value : ν} :
    dictionary.get? key = some value ↔ (key, value) ∈ dictionary.entries :=
  find_entry_eq_some_iff dictionary.distinct_keys

theorem mem_keys_iff [DecidableEq κ] {dictionary : Dictionary κ ν} {key : κ} :
    key ∈ dictionary.keys ↔ ∃ value, dictionary.get? key = some value :=
  find_entry_is_some_iff.symm.trans Option.isSome_iff_exists

end LawfulEq

section Lawful

variable [Std.TransOrd κ] [Std.LawfulEqOrd κ]

theorem find_entry_insert_entry (entries : List (κ × ν)) (key : κ) (value : ν) (asked : κ) :
    findEntry asked (insertEntry key value entries) =
      if compare asked key = .eq then some value else findEntry asked entries := by
  induction entries with
  | nil => simp [insertEntry, findEntry]
  | cons head rest ih =>
      unfold insertEntry
      split
      · next => simp [findEntry]
      · next same =>
          have equal := Std.LawfulEqCmp.eq_of_compare same
          subst equal
          by_cases asks : compare asked head.1 = .eq <;> simp [findEntry, asks]
      · next greater =>
          rw [findEntry, findEntry, ih]
          by_cases asks : compare asked head.1 = .eq
          · have equal := Std.LawfulEqCmp.eq_of_compare asks
            subst equal
            have differs : compare head.1 key ≠ .eq := by
              rw [Std.OrientedCmp.gt_iff_lt.1 greater]; decide
            simp [differs]
          · simp [asks]

/-- Binding a key changes the look-up of that key only. -/
theorem get?_insert [DecidableEq κ] (dictionary : Dictionary κ ν) (key : κ) (value : ν) (asked : κ) :
    (dictionary.insert key value).get? asked =
      if asked = key then some value else dictionary.get? asked := by
  simp only [get?, insert, find_entry_insert_entry, Std.compare_eq_iff_eq]

theorem eq_of_find_entry_eq {left right : List (κ × ν)}
    (leftAscending : left.Pairwise fun earlier later => compare earlier.1 later.1 = .lt)
    (rightAscending : right.Pairwise fun earlier later => compare earlier.1 later.1 = .lt)
    (same : ∀ key, findEntry key left = findEntry key right) : left = right := by
  have apart {lesser greater : κ} (below : compare lesser greater = .lt) :
      compare lesser greater ≠ .eq := by simp [below]
  induction left generalizing right with
  | nil =>
      cases right with
      | nil => rfl
      | cons head rest => simpa [findEntry] using same head.1
  | cons leftHead leftRest ih =>
      cases right with
      | nil => simpa [findEntry] using same leftHead.1
      | cons rightHead rightRest =>
          obtain ⟨leftAbove, leftOrdered⟩ := List.pairwise_cons.1 leftAscending
          obtain ⟨rightAbove, rightOrdered⟩ := List.pairwise_cons.1 rightAscending
          have keysAgree : leftHead.1 = rightHead.1 := by
            cases order : compare leftHead.1 rightHead.1 with
            | eq => exact Std.LawfulEqCmp.eq_of_compare order
            | lt =>
                have absent : findEntry leftHead.1 rightRest = none := find_entry_eq_none
                  fun entry inside => apart (Std.TransCmp.lt_trans order (rightAbove entry inside))
                simpa [findEntry, order, absent] using same leftHead.1
            | gt =>
                have reversed := Std.OrientedCmp.gt_iff_lt.1 order
                have absent : findEntry rightHead.1 leftRest = none := find_entry_eq_none
                  fun entry inside => apart (Std.TransCmp.lt_trans reversed (leftAbove entry inside))
                simpa [findEntry, reversed, absent] using same rightHead.1
          have valuesAgree : leftHead.2 = rightHead.2 := by
            simpa [findEntry, keysAgree] using same leftHead.1
          have restsAgree : leftRest = rightRest := by
            refine ih leftOrdered rightOrdered fun key => ?_
            by_cases here : compare key leftHead.1 = .eq
            · have equal := Std.LawfulEqCmp.eq_of_compare here
              rw [equal, find_entry_eq_none fun entry inside => apart (leftAbove entry inside),
                keysAgree, find_entry_eq_none fun entry inside => apart (rightAbove entry inside)]
            · have there : compare key rightHead.1 ≠ .eq := keysAgree ▸ here
              simpa [findEntry, here, there] using same key
          rw [restsAgree, show leftHead = rightHead from Prod.ext keysAgree valuesAgree]

/-- Dictionaries that answer every look-up alike are equal. -/
theorem ext_get? {left right : Dictionary κ ν}
    (same : ∀ key, left.get? key = right.get? key) : left = right := by
  have entriesAgree := eq_of_find_entry_eq left.ascending right.ascending same
  cases left; cases right; simp_all

/-- Binds each pair in turn, so that a later pair replaces an earlier one of the same key. -/
def insertAll (dictionary : Dictionary κ ν) (pairs : List (κ × ν)) : Dictionary κ ν :=
  pairs.foldl (fun result pair => result.insert pair.1 pair.2) dictionary

def ofPairs (pairs : List (κ × ν)) : Dictionary κ ν :=
  empty.insertAll pairs

def overlay (lower upper : Dictionary κ ν) : Dictionary κ ν :=
  lower.insertAll upper.entries

/-- Pairs with distinct keys may be bound in any order. -/
theorem get?_insert_all [DecidableEq κ] (dictionary : Dictionary κ ν) {pairs : List (κ × ν)}
    (distinct : pairs.Pairwise fun earlier later => earlier.1 ≠ later.1) (key : κ) :
    (dictionary.insertAll pairs).get? key = (findEntry key pairs).or (dictionary.get? key) := by
  induction pairs generalizing dictionary with
  | nil => rfl
  | cons head rest ih =>
      obtain ⟨differs, distinct⟩ := List.pairwise_cons.1 distinct
      rw [insertAll, List.foldl_cons]
      refine (ih (dictionary.insert head.1 head.2) distinct).trans ?_
      rw [get?_insert, find_entry_cons]
      by_cases here : key = head.1
      · have absent : findEntry key rest = none :=
          find_entry_of_absent fun entry inside => here ▸ differs entry inside
        rw [absent, if_pos here, if_pos here]
        rfl
      · rw [if_neg here, if_neg here]

/-- In an overlay the upper dictionary answers first. -/
@[simp] theorem get?_overlay [DecidableEq κ] (lower upper : Dictionary κ ν) (key : κ) :
    (lower.overlay upper).get? key = (upper.get? key).or (lower.get? key) :=
  get?_insert_all lower upper.distinct_keys key

end Lawful

def filter (dictionary : Dictionary κ ν) (keep : κ → ν → Bool) : Dictionary κ ν where
  entries := dictionary.entries.filter fun entry => keep entry.1 entry.2
  ascending := dictionary.ascending.filter _

theorem get?_filter [Std.LawfulEqOrd κ] (dictionary : Dictionary κ ν) (keep : κ → Bool) (key : κ) :
    (dictionary.filter fun other _ => keep other).get? key =
      if keep key then dictionary.get? key else none := by
  unfold get? filter
  dsimp only
  induction dictionary.entries with
  | nil => simp [findEntry]
  | cons head rest ih =>
      by_cases asked : compare key head.1 = .eq
      · have same : key = head.1 := Std.LawfulEqCmp.eq_of_compare asked
        by_cases kept : keep head.1
        · simp [findEntry, same, kept]
        · rw [List.filter_cons, if_neg kept, ih]
          simp [same, kept]
      · by_cases kept : keep head.1
        · rw [List.filter_cons, if_pos kept]
          simp only [findEntry, asked, if_false]
          exact ih
        · rw [List.filter_cons, if_neg kept, ih]
          simp only [findEntry, asked, if_false]

end Dictionary

end Provision
