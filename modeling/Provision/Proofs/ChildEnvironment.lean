import Provision.Host.Launch

/-!
# From the program's environment to its children's

The program reads those variables that are text and hands all of them on as bytes, with a command's
variables laid over them. Both are settled name by name: `get_capture` says what is read, and
`get_child_bindings` what a child receives.
-/

namespace Provision

/-! ## What is read -/

theorem name_of_readable {entry : Bytes × Bytes} {read : String × String}
    (readable : Snapshot.readable? entry = some read) : entry.1 = Utf8.encode read.1 := by
  simp only [Snapshot.readable?, Option.bind_eq_bind, Option.bind_eq_some_iff] at readable
  obtain ⟨name, decoded, value, _, same⟩ := readable
  rw [← Option.some.inj same]
  exact Utf8.eq_encode_of_decode? decoded

theorem find_entry_readable {entries : List (Bytes × Bytes)}
    (distinct : entries.Pairwise fun earlier later => earlier.1 ≠ later.1) (name : String) :
    Dictionary.findEntry name (entries.filterMap Snapshot.readable?) =
      (Dictionary.findEntry (Utf8.encode name) entries).bind Utf8.decode? := by
  induction entries with
  | nil => rfl
  | cons head rest ih =>
      obtain ⟨differs, distinct⟩ := List.pairwise_cons.1 distinct
      rw [Dictionary.find_entry_cons]
      by_cases here : Utf8.encode name = head.1
      · rw [if_pos here]
        have absent : Dictionary.findEntry (Utf8.encode name) rest = none :=
          Dictionary.find_entry_of_absent fun entry inside => here ▸ differs entry inside
        have later := ih distinct
        rw [absent] at later
        cases value : Utf8.decode? head.2 with
        | none => simp [Snapshot.readable?, value, later]
        | some text =>
            simp [Snapshot.readable?, ← here, value, Dictionary.find_entry_cons]
      · rw [if_neg here, ← ih distinct]
        cases read : Snapshot.readable? head with
        | none => rw [List.filterMap_cons_none read]
        | some entry =>
            rw [List.filterMap_cons_some read, Dictionary.find_entry_cons, if_neg]
            intro same
            exact here (same ▸ (name_of_readable read).symm)

theorem distinct_readable {entries : List (Bytes × Bytes)}
    (distinct : entries.Pairwise fun earlier later => earlier.1 ≠ later.1) :
    (entries.filterMap Snapshot.readable?).Pairwise fun earlier later => earlier.1 ≠ later.1 := by
  rw [List.pairwise_filterMap]
  refine distinct.imp ?_
  intro earlier later differs first readFirst second readSecond same
  apply differs
  rw [name_of_readable readFirst, name_of_readable readSecond, same]

/-- A variable is read as the text that it is, and not at all if it is no text. -/
theorem Snapshot.get_capture (bindings : Dictionary Bytes Bytes) (name : String) :
    (Snapshot.capture bindings.entries).bindings.get? name =
      (bindings.get? (Utf8.encode name)).bind Utf8.decode? := by
  have distinct := bindings.distinct_keys
  have bound := Dictionary.empty.get?_insert_all (distinct_readable distinct) name
  rw [Dictionary.get?_empty, Option.or_none, find_entry_readable distinct] at bound
  exact bound

/-! ## What a child receives -/

namespace Host.Launch

theorem find_entry_encoded (entries : List (String × String)) (name : String) :
    Dictionary.findEntry (Utf8.encode name)
        (entries.map fun entry => (Utf8.encode entry.1, Utf8.encode entry.2)) =
      (Dictionary.findEntry name entries).map Utf8.encode := by
  induction entries with
  | nil => rfl
  | cons head rest ih =>
      rw [List.map_cons, Dictionary.find_entry_cons, Dictionary.find_entry_cons, ih]
      by_cases here : name = head.1
      · rw [if_pos here, if_pos (congrArg Utf8.encode here)]
        rfl
      · rw [if_neg here, if_neg fun same => here (Utf8.encode_injective same)]

theorem distinct_encoded (overrides : Dictionary String String) :
    (encoded overrides).Pairwise fun earlier later => earlier.1 ≠ later.1 := by
  rw [encoded, List.pairwise_map]
  refine overrides.distinct_keys.imp ?_
  intro earlier later differs same
  exact differs (Utf8.encode_injective same)

/-- A child receives a command's variables, and below them those of the program as they are. -/
theorem get_child_bindings (surroundings : Surroundings) (overrides : Dictionary String String)
    (name : String) :
    (childBindings surroundings overrides).get? (Utf8.encode name) =
      ((overrides.get? name).map Utf8.encode).or (surroundings.value? name) := by
  rw [childBindings, Dictionary.get?_insert_all _ (distinct_encoded overrides), encoded,
    find_entry_encoded]
  rfl

end Host.Launch

end Provision
