import Provision.Toml.Document
import Mathlib.Data.List.Nodup

/-!
# Keys of a document

No table of a document binds a key twice: tables grow by changes that bind new keys only, and what is
inside of them was read under the same rule.
-/

namespace Provision.Toml

/-! ## Looking up -/

section Lookup

variable {α : Type} {entries : List (String × α)} {key : String} {value : α}

theorem mem_of_lookup (found : entries.lookup key = some value) : (key, value) ∈ entries := by
  obtain ⟨before, after, split, _⟩ := List.lookup_eq_some_iff.1 found
  rw [split]
  exact List.mem_append_right before List.mem_cons_self

theorem lookup_cons_of_ne {name : String} (apart : key ≠ name) :
    ((name, value) :: entries).lookup key = entries.lookup key := by
  rw [List.lookup_cons, beq_false_of_ne apart]

theorem lookup_of_fresh (fresh : key ∉ entries.map Prod.fst) : entries.lookup key = none := by
  rw [List.lookup_eq_none_iff]
  intro entry inside
  exact bne_iff_ne.2 fun same => fresh (same ▸ List.mem_map_of_mem inside)

/-- Where no key is bound twice, each is found with what it is bound to. -/
theorem lookup_of_mem (keys : (entries.map Prod.fst).Nodup) (inside : (key, value) ∈ entries) :
    entries.lookup key = some value := by
  obtain ⟨before, after, rfl⟩ := List.append_of_mem inside
  rw [List.map_append] at keys
  have fresh : key ∉ before.map Prod.fst := fun again =>
    (List.nodup_append.1 keys).2.2 key again key List.mem_cons_self rfl
  rw [List.lookup_append, lookup_of_fresh fresh, List.lookup_cons_self]
  rfl

end Lookup

/-! ## Values -/

inductive Value.Distinct : Value → Prop where
  | text (content : String) : Distinct (.text content)
  | integer (number : Int) : Distinct (.integer number)
  | float (number : Binary64) : Distinct (.float number)
  | boolean (truth : Bool) : Distinct (.boolean truth)
  | dateTime : Distinct .dateTime
  | array {elements : List Value} (each : ∀ element ∈ elements, Distinct element) :
      Distinct (.array elements)
  | table {entries : List (String × Value)} (keys : (entries.map Prod.fst).Nodup)
      (each : ∀ entry ∈ entries, Distinct entry.2) : Distinct (.table entries)

/-- No table that grows at the node or inside of it binds a key twice. -/
inductive Node.Distinct : Node → Prop where
  | value {content : Value} (distinct : content.Distinct) : Distinct (.value content)
  | table {implied dotted : Bool} {entries : List (String × Node)}
      (keys : (entries.map Prod.fst).Nodup) (each : ∀ entry ∈ entries, Distinct entry.2) :
      Distinct (.table implied dotted entries)
  | tables {members : List (List (String × Node))}
      (keys : ∀ entries ∈ members, (entries.map Prod.fst).Nodup)
      (each : ∀ entries ∈ members, ∀ entry ∈ entries, Distinct entry.2) :
      Distinct (.tables members)

/-- No key is bound twice, neither here nor further inside. -/
structure Entries.Distinct (entries : Entries) : Prop where
  keys : (entries.map Prod.fst).Nodup
  each : ∀ entry ∈ entries, entry.2.Distinct

theorem entry_values_eq_map (entries : Entries) :
    entryValues entries = entries.map fun entry => (entry.1, entry.2.toValue) := by
  induction entries with
  | nil => rw [entryValues, List.map_nil]
  | cons entry rest ih => rw [entryValues, ih, List.map_cons]

theorem member_values_eq_map (members : List Entries) :
    memberValues members = members.map fun entries => .table (entryValues entries) := by
  induction members with
  | nil => rw [memberValues, List.map_nil]
  | cons entries rest ih => rw [memberValues, ih, List.map_cons]

theorem keys_entry_values (entries : Entries) :
    (entryValues entries).map Prod.fst = entries.map Prod.fst := by
  rw [entry_values_eq_map, List.map_map]
  rfl

theorem Node.Distinct.to_value {node : Node} (distinct : node.Distinct) : node.toValue.Distinct := by
  induction distinct with
  | value distinct => rwa [Node.toValue]
  | @table implied dotted entries keys _ ih =>
      rw [Node.toValue]
      refine .table ((keys_entry_values entries).symm ▸ keys) ?_
      rw [entry_values_eq_map, List.forall_mem_map]
      exact ih
  | @tables members keys _ ih =>
      rw [Node.toValue, member_values_eq_map]
      refine .array ?_
      rw [List.forall_mem_map]
      intro entries member
      refine .table ((keys_entry_values entries).symm ▸ keys entries member) ?_
      rw [entry_values_eq_map, List.forall_mem_map]
      exact ih entries member

namespace Entries

theorem Distinct.values {entries : Entries} (distinct : entries.Distinct) :
    Value.Distinct (.table (entryValues entries)) := by
  have node := @Node.Distinct.table false false entries distinct.keys distinct.each
  have value := node.to_value
  rwa [Node.toValue] at value

theorem distinct_nil : Distinct [] := ⟨.nil, by simp⟩

/-! ## Changes -/

/-- A change keeps the keys in their order, and binds a new one behind them. -/
theorem keys_alter {key : String} {change : Option Node → Option Node} {entries altered : Entries}
    (done : entries.alter key change = some altered) :
    altered.map Prod.fst =
      if key ∈ entries.map Prod.fst then entries.map Prod.fst else entries.map Prod.fst ++ [key] := by
  induction entries generalizing altered with
  | nil =>
      obtain ⟨node, _, rfl⟩ := Option.map_eq_some_iff.1 done
      rfl
  | cons head rest ih =>
      obtain ⟨name, node⟩ := head
      rw [alter] at done
      split at done
      · next same =>
          obtain ⟨changed, _, rfl⟩ := Option.map_eq_some_iff.1 done
          simp [same]
      · next differs =>
          obtain ⟨later, doneLater, rfl⟩ := Option.map_eq_some_iff.1 done
          rw [List.map_cons, ih doneLater, List.map_cons]
          have apart : key ≠ name := Ne.symm differs
          by_cases known : key ∈ rest.map Prod.fst
          · simp [known]
          · simp [known, apart]

/-- What is bound after a change was bound before it, or is what the change made. -/
theorem mem_alter {key : String} {change : Option Node → Option Node} {entries altered : Entries}
    (done : entries.alter key change = some altered) {entry : String × Node}
    (inside : entry ∈ altered) :
    entry ∈ entries ∨
      ∃ old, change old = some entry.2 ∧ ∀ node, old = some node → (key, node) ∈ entries := by
  induction entries generalizing altered with
  | nil =>
      obtain ⟨node, made, rfl⟩ := Option.map_eq_some_iff.1 done
      cases List.mem_singleton.1 inside
      exact .inr ⟨none, made, by simp⟩
  | cons head rest ih =>
      obtain ⟨name, node⟩ := head
      rw [alter] at done
      split at done
      · next same =>
          obtain ⟨changed, made, rfl⟩ := Option.map_eq_some_iff.1 done
          rcases List.mem_cons.1 inside with rfl | later
          · exact .inr ⟨some node, made, by simp [same]⟩
          · exact .inl (List.mem_cons_of_mem _ later)
      · obtain ⟨later, doneLater, rfl⟩ := Option.map_eq_some_iff.1 done
        rcases List.mem_cons.1 inside with rfl | inLater
        · exact .inl List.mem_cons_self
        · refine (ih doneLater inLater).imp (List.mem_cons_of_mem _) ?_
          rintro ⟨old, made, known⟩
          exact ⟨old, made, fun node same => List.mem_cons_of_mem _ (known node same)⟩

theorem Distinct.alter {key : String} {change : Option Node → Option Node}
    {entries altered : Entries} (distinct : entries.Distinct)
    (changes : ∀ old new, change old = some new → (∀ node, old = some node → node.Distinct) →
      new.Distinct)
    (done : entries.alter key change = some altered) : altered.Distinct := by
  constructor
  · rw [keys_alter done]
    split
    · exact distinct.keys
    · next new =>
        exact List.nodup_append_comm.1 (List.nodup_cons.2 ⟨new, distinct.keys⟩)
  · intro entry inside
    rcases mem_alter done inside with before | ⟨old, made, known⟩
    · exact distinct.each entry before
    · exact changes old entry.2 made fun node same => distinct.each _ (known node same)

theorem Distinct.add {key : String} {node : Node} {entries altered : Entries}
    (distinct : entries.Distinct) (fits : node.Distinct)
    (done : entries.add key node = some altered) : altered.Distinct := by
  refine distinct.alter ?_ done
  intro old new made _
  cases old with
  | none =>
      cases made
      exact fits
  | some before => cases made

/-- The members of an array of tables, of which the last is changed or the first one made. -/
theorem distinct_last {members : List Entries} (distinct : Node.Distinct (.tables members)) :
    Distinct (members.getLast?.getD []) := by
  cases distinct with
  | tables keys each =>
      cases last : members.getLast? with
      | none => exact distinct_nil
      | some entries =>
          have inside := List.mem_of_getLast? last
          exact ⟨keys entries inside, each entries inside⟩

theorem distinct_tables {members : List Entries} (each : ∀ entries ∈ members, Distinct entries) :
    Node.Distinct (.tables members) :=
  .tables (fun entries inside => (each entries inside).keys)
    (fun entries inside => (each entries inside).each)

theorem distinct_members {members : List Entries} (distinct : Node.Distinct (.tables members)) :
    ∀ entries ∈ members, Distinct entries := by
  cases distinct with
  | tables keys each => exact fun entries inside => ⟨keys entries inside, each entries inside⟩

theorem Distinct.within {dotted : Bool} {change : Bool → Entries → Option Entries}
    (changes : ∀ own inner altered, Distinct inner → change own inner = some altered →
      Distinct altered)
    {path : List String} {own : Bool} {entries altered : Entries} (distinct : entries.Distinct)
    (done : entries.within dotted change path own = some altered) : altered.Distinct := by
  induction path generalizing own entries altered with
  | nil =>
      rw [Entries.within] at done
      exact changes own entries altered distinct done
  | cons key path ih =>
      rw [Entries.within] at done
      refine distinct.alter ?_ done
      intro old new made known
      match old with
      | none =>
          obtain ⟨inner, reached, rfl⟩ := Option.map_eq_some_iff.1 made
          have inside := ih distinct_nil reached
          exact .table inside.keys inside.each
      | some (.value _) => cases made
      | some (.tables members) =>
          obtain ⟨inner, reached, rfl⟩ := Option.map_eq_some_iff.1 made
          have before := distinct_members (known _ rfl)
          have inside := ih (distinct_last (known _ rfl)) reached
          refine distinct_tables fun entries member => ?_
          rcases List.mem_append.1 member with earlier | last
          · exact before entries ((List.dropLast_sublist _).mem earlier)
          · exact List.mem_singleton.1 last ▸ inside
      | some (.table implied dottedToo inner) =>
          dsimp only at made
          split at made
          · cases made
          · obtain ⟨inner, reached, rfl⟩ := Option.map_eq_some_iff.1 made
            have before := known _ rfl
            cases before with
            | table keys each =>
                have inside := ih ⟨keys, each⟩ reached
                exact .table inside.keys inside.each

theorem Distinct.bind {path : List String} {key : String} {content : Value}
    {entries altered : Entries} (distinct : entries.Distinct) (fits : content.Distinct)
    (done : entries.bind path key content = some altered) : altered.Distinct := by
  refine distinct.within ?_ done
  intro own inner changed before made
  split at made
  · cases made
  · exact before.add (.value fits) made

end Entries

/-! ## Values as they are read -/

variable {chars : List Char}

theorem read_date_time_distinct {read : Value × List Char} (done : readDateTime chars = some read) :
    read.1.Distinct := by
  have date : read.1 = .dateTime := by
    revert done
    unfold readDateTime
    split
    · split
      · split
        · split <;> (rintro ⟨⟩; rfl)
        · rintro ⟨⟩
          rfl
      · rintro ⟨⟩
        rfl
    · intro done
      obtain ⟨rest, _, rfl⟩ := Option.map_eq_some_iff.1 done
      rfl
  rw [date]
  exact .dateTime

theorem read_float_distinct {read : Value × List Char} (done : readFloat chars = some read) :
    read.1.Distinct := by
  unfold readFloat at done
  split at done
  · cases done
  · cases done
    exact .float _
  · obtain ⟨_, _, rfl⟩ := Option.map_eq_some_iff.1 done
    exact .float _

theorem read_based_distinct {base : Nat} {accepts : Char → Bool} {read : Value × List Char}
    (done : readBased base accepts chars = some read) : read.1.Distinct := by
  obtain ⟨digits, _, made⟩ := Option.bind_eq_some_iff.1 done
  dsimp only at made
  split at made
  · cases made
    exact .integer _
  · cases made

theorem read_integer_distinct {read : Value × List Char} (done : readInteger chars = some read) :
    read.1.Distinct := by
  unfold readInteger at done
  split at done
  · exact read_based_distinct done
  · exact read_based_distinct done
  · exact read_based_distinct done
  · dsimp only at done
    generalize readSign chars = signed at done
    obtain ⟨negative, rest⟩ := signed
    obtain ⟨⟨digits, after⟩, _, made⟩ := Option.bind_eq_some_iff.1 done
    generalize Text.numberOf 10 digits = size at made
    split at made
    · split at made
      · cases made
        exact .integer _
      · cases made
    · split at made
      · cases made
        exact .integer _
      · cases made

theorem read_boolean_distinct {read : Value × List Char} (done : readBoolean chars = some read) :
    read.1.Distinct := by
  unfold readBoolean at done
  split at done <;> cases done <;> exact .boolean _

theorem read_scalar_distinct {read : Value × List Char} (done : readScalar chars = some read) :
    read.1.Distinct := by
  rcases Option.or_eq_some_iff.1 done with date | ⟨_, done⟩
  · exact read_date_time_distinct date
  rcases Option.or_eq_some_iff.1 done with float | ⟨_, done⟩
  · exact read_float_distinct float
  rcases Option.or_eq_some_iff.1 done with integer | ⟨_, boolean⟩
  · exact read_integer_distinct integer
  · exact read_boolean_distinct boolean

/-- What is read in so many steps binds no key twice. -/
structure ReadsDistinct (steps : Nat) : Prop where
  value : ∀ depth chars read, readValue steps depth chars = some read → read.1.Distinct
  elements : ∀ depth chars read, readElements steps depth chars = some read →
    ∀ element ∈ read.1, element.Distinct
  pairs : ∀ depth entries chars read, readPairs steps depth entries chars = some read →
    Entries.Distinct entries → Entries.Distinct read.1

theorem ReadsDistinct.succ_value {steps : Nat} (reads : ReadsDistinct steps) {depth : Nat}
    {read : Value × List Char} (done : readValue (steps + 1) depth chars = some read) :
    read.1.Distinct := by
  unfold readValue at done
  split at done
  · cases done
    exact .text _
  · split at done
    · split at done
      · obtain ⟨inner, elements, rfl⟩ := Option.map_eq_some_iff.1 done
        exact .array (reads.elements _ _ inner elements)
      · cases done
    · split at done
      · split at done
        · cases done
          exact Entries.distinct_nil.values
        · obtain ⟨inner, pairs, rfl⟩ := Option.map_eq_some_iff.1 done
          exact (reads.pairs _ _ _ inner pairs Entries.distinct_nil).values
      · cases done
    · exact read_scalar_distinct done

theorem ReadsDistinct.succ_elements {steps : Nat} (reads : ReadsDistinct steps) {depth : Nat}
    {read : List Value × List Char} (done : readElements (steps + 1) depth chars = some read) :
    ∀ element ∈ read.1, element.Distinct := by
  rw [readElements] at done
  split at done
  · cases done
    simp
  · split at done
    · cases done
    · next element after value =>
        have first := reads.value _ _ _ value
        split at done
        · obtain ⟨inner, elements, rfl⟩ := Option.map_eq_some_iff.1 done
          exact List.forall_mem_cons.2 ⟨first, reads.elements _ _ inner elements⟩
        · cases done
          exact List.forall_mem_singleton.2 first
        · cases done

theorem ReadsDistinct.succ_pairs {steps : Nat} (reads : ReadsDistinct steps) {depth : Nat}
    {entries : Entries} {read : Entries × List Char}
    (done : readPairs (steps + 1) depth entries chars = some read) (distinct : entries.Distinct) :
    read.1.Distinct := by
  rw [readPairs] at done
  split at done
  · split at done
    · cases done
    · next content after value =>
        split at done
        · cases done
        · next longer bound =>
            have grown := distinct.bind (reads.value _ _ _ value) bound
            split at done
            · exact reads.pairs _ _ _ _ done grown
            · cases done
              exact grown
            · cases done
  · cases done

theorem reads_distinct (steps : Nat) : ReadsDistinct steps := by
  induction steps with
  | zero =>
      constructor
      · intro depth chars read done
        rw [readValue] at done
        cases done
      · intro depth chars read done
        rw [readElements] at done
        cases done
      · intro depth entries chars read done
        rw [readPairs] at done
        cases done
  | succ steps ih =>
      exact ⟨fun _ _ _ => ih.succ_value, fun _ _ _ => ih.succ_elements,
        fun _ _ _ _ => ih.succ_pairs⟩

/-! ## Statements -/

/-- What a statement binds a key to binds no key twice itself. -/
def Statement.Distinct : Statement → Prop
  | .bind _ content => content.Distinct
  | .table _ | .member _ => True

theorem read_statement_distinct {read : Statement × List Char}
    (done : readStatement chars = some read) : read.1.Distinct := by
  unfold readStatement at done
  split at done
  · split at done
    · obtain ⟨_, _, rfl⟩ := Option.map_eq_some_iff.1 done
      trivial
    · cases done
  · split at done
    · obtain ⟨_, _, rfl⟩ := Option.map_eq_some_iff.1 done
      trivial
    · cases done
  · split at done
    · split at done
      · next value =>
          obtain ⟨_, _, rfl⟩ := Option.map_eq_some_iff.1 done
          exact (reads_distinct _).value _ _ _ value
      · cases done
    · cases done

theorem read_statements_distinct {lines : Nat} {statements : List Statement}
    (done : readStatements lines chars = some statements) :
    ∀ statement ∈ statements, statement.Distinct := by
  induction lines generalizing chars statements with
  | zero => cases done
  | succ lines ih =>
      rw [readStatements] at done
      split at done
      · cases done
        simp
      · split at done
        · exact ih done
        · cases done
      · split at done
        · exact ih done
        · split at done
          · next read =>
              obtain ⟨later, rest, rfl⟩ := Option.map_eq_some_iff.1 done
              exact List.forall_mem_cons.2 ⟨read_statement_distinct read, ih rest⟩
          · cases done

theorem statements_distinct {content : String} {statements : List Statement}
    (done : statements? content = some statements) :
    ∀ statement ∈ statements, statement.Distinct := by
  unfold statements? at done
  split at done <;> exact read_statements_distinct done

/-! ## Documents -/

namespace Draft

/-- What a draft has in place and what it has open bind no key twice. -/
structure Distinct (draft : Draft) : Prop where
  placed : Entries.Distinct draft.placed
  opened : Entries.Distinct draft.opened

theorem Distinct.close {draft : Draft} (distinct : draft.Distinct) {entries : Entries}
    (done : draft.close = some entries) : entries.Distinct := by
  unfold Draft.close at done
  split at done
  · cases done
    exact distinct.opened
  · refine distinct.placed.within ?_ done
    intro _ parent altered before made
    split at made
    · refine before.alter ?_ made
      intro old new made known
      match old with
      | none =>
          cases made
          exact Entries.distinct_tables (List.forall_mem_singleton.2 distinct.opened)
      | some (.tables members) =>
          cases made
          refine Entries.distinct_tables (List.forall_mem_append.2 ⟨?_, ?_⟩)
          · exact Entries.distinct_members (known _ rfl)
          · exact List.forall_mem_singleton.2 distinct.opened
      | some (.value _) => cases made
      | some (.table _ _ _) => cases made
    · exact before.add (.table distinct.opened.keys distinct.opened.each) made

theorem lookup_distinct {entries : Entries} (distinct : entries.Distinct) {key : String} {node : Node}
    (found : entries.lookup key = some node) : node.Distinct :=
  distinct.each (key, node) (mem_of_lookup found)

theorem entries_at_distinct {path : List String} {entries : Entries} (distinct : entries.Distinct) :
    (entriesAt path entries).Distinct := by
  induction path generalizing entries with
  | nil =>
      rw [entriesAt]
      exact distinct
  | cons key path ih =>
      rw [entriesAt]
      split
      · next found =>
          cases lookup_distinct distinct found with
          | table keys each => exact ih ⟨keys, each⟩
      · next found => exact ih (Entries.distinct_last (lookup_distinct distinct found))
      · exact Entries.distinct_nil

theorem reopened_distinct {name : String} {parent inner rest : Entries} (distinct : parent.Distinct)
    (done : reopened? name parent = some (inner, rest)) : inner.Distinct ∧ rest.Distinct := by
  unfold reopened? at done
  split at done
  · cases done
    exact ⟨Entries.distinct_nil, distinct⟩
  · next found =>
      cases done
      cases lookup_distinct distinct found with
      | table keys each =>
          have kept := List.filter_sublist (p := fun entry => entry.1 ≠ name) (l := parent)
          exact ⟨⟨keys, each⟩, distinct.keys.sublist (kept.map _),
            fun entry inside => distinct.each entry (kept.mem inside)⟩
  · cases done

theorem Distinct.read {draft after : Draft} (distinct : draft.Distinct) {statement : Statement}
    (fits : statement.Distinct) (done : draft.read statement = some after) : after.Distinct := by
  cases statement with
  | bind key content =>
      obtain ⟨opened, bound, rfl⟩ := Option.map_eq_some_iff.1 done
      exact ⟨distinct.placed, distinct.opened.bind fits bound⟩
  | table key =>
      obtain ⟨placed, closed, done⟩ := Option.bind_eq_some_iff.1 done
      obtain ⟨⟨opened, rest⟩, found, done⟩ := Option.bind_eq_some_iff.1 done
      obtain ⟨placedToo, reached, done⟩ := Option.bind_eq_some_iff.1 done
      cases done
      have before := distinct.close closed
      refine ⟨before.within ?_ reached, (reopened_distinct (entries_at_distinct before) found).1⟩
      intro _ parent altered inside made
      obtain ⟨⟨_, _⟩, reopened, rfl⟩ := Option.map_eq_some_iff.1 made
      exact (reopened_distinct inside reopened).2
  | member key =>
      obtain ⟨placed, closed, done⟩ := Option.bind_eq_some_iff.1 done
      obtain ⟨placedToo, reached, done⟩ := Option.bind_eq_some_iff.1 done
      cases done
      refine ⟨(distinct.close closed).within ?_ reached, Entries.distinct_nil⟩
      intro _ parent altered inside made
      refine inside.alter ?_ made
      intro old new made known
      match old with
      | none =>
          cases made
          exact Entries.distinct_tables (by simp)
      | some (.tables members) =>
          cases made
          exact known _ rfl
      | some (.value _) => cases made
      | some (.table _ _ _) => cases made

theorem Distinct.read_all {draft after : Draft} (distinct : draft.Distinct)
    {statements : List Statement} (fits : ∀ statement ∈ statements, statement.Distinct)
    (done : statements.foldlM Draft.read draft = some after) : after.Distinct := by
  induction statements generalizing draft with
  | nil =>
      cases done
      exact distinct
  | cons statement statements ih =>
      obtain ⟨head, rest⟩ := List.forall_mem_cons.1 fits
      rw [List.foldlM_cons] at done
      obtain ⟨next, read, later⟩ := Option.bind_eq_some_iff.1 done
      exact ih (distinct.read head read) rest later

end Draft

/-- The value of a document binds no key twice, neither at the top nor further inside. -/
theorem document_distinct {content : String} {entries : List (String × Value)}
    (read : document? content = some entries) : Value.Distinct (.table entries) := by
  obtain ⟨statements, listed, done⟩ := Option.bind_eq_some_iff.1 read
  obtain ⟨built, made, done⟩ := Option.bind_eq_some_iff.1 done
  cases done
  obtain ⟨draft, folded, closed⟩ := Option.bind_eq_some_iff.1 made
  have start : Draft.Distinct {} := ⟨Entries.distinct_nil, Entries.distinct_nil⟩
  exact ((start.read_all (statements_distinct listed) folded).close closed).values

end Provision.Toml
