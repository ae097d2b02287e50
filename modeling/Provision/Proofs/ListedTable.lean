import Provision.Proofs.Listing
import Provision.Proofs.ReleaseTable

/-!
# The table of a listing

The statements of a text that lists releases build one array of tables, a record of which has the
contents of the release under the names of the fields. So the releases that are read are those that were
written, in their order, and the table of the text is the table of their list.
-/

namespace Provision

/-! ## Building the document -/

namespace Toml.Entries

theorem add_of_absent {key : String} {node : Node} {entries : Entries}
    (absent : key ∉ entries.map Prod.fst) : entries.add key node = some (entries ++ [(key, node)]) := by
  induction entries with
  | nil => rfl
  | cons head rest ih =>
      rw [List.map_cons, List.mem_cons, not_or] at absent
      have later := ih absent.2
      unfold add at later ⊢
      rw [alter, if_neg (Ne.symm absent.1), later]
      rfl

theorem bind_of_absent {key : String} {content : Value} {entries : Entries}
    (absent : key ∉ entries.map Prod.fst) :
    entries.bind [] key content = some (entries ++ [(key, .value content)]) :=
  add_of_absent absent

end Toml.Entries

namespace Release

open Toml

theorem field_name_inj {field other : Field} (same : field.name = other.name) : field = other := by
  cases field <;> cases other <;> first | rfl | (revert same; decide)

def entries (release : Release) (order : List Field) : Entries :=
  order.map fun field => (field.name, .value (.text (release.content field)))

/-- What is in place once the members of the list are. Without members there is no list. -/
def placed : List Entries → Entries
  | [] => []
  | members => [(listKey, .tables members)]

theorem placed_concat (members : List Entries) (entries : Entries) :
    placed (members ++ [entries]) = [(listKey, .tables (members ++ [entries]))] := by
  cases members <;> rfl

/-- The draft in which a record is open behind other members. -/
def opened (members : List Entries) (entries : Entries) : Draft where
  placed := [(listKey, .tables members)]
  header := some (⟨[], listKey⟩, true)
  opened := entries

theorem close_opened (members : List Entries) (entries : Entries) :
    (opened members entries).close = some (placed (members ++ [entries])) := by
  rw [placed_concat]
  rfl

theorem read_member {draft : Draft} {members : List Entries}
    (closed : draft.close = some (placed members)) :
    draft.read (.member ⟨[], listKey⟩) = some (opened members []) := by
  rw [Draft.read, closed]
  cases members <;> rfl

theorem read_binding (release : Release) (members : List Entries) {before : List Field} {field : Field}
    (new : field ∉ before) :
    (opened members (release.entries before)).read (release.binding field) =
      some (opened members (release.entries (before ++ [field]))) := by
  have absent : field.name ∉ (release.entries before).map Prod.fst := by
    simp only [entries, List.map_map, List.mem_map, not_exists, not_and]
    intro other inside same
    exact new (field_name_inj same ▸ inside)
  have longer : release.entries (before ++ [field]) = release.entries before ++
      [(field.name, .value (.text (release.content field)))] := List.map_append
  have bound : (opened members (release.entries before)).opened.bind [] field.name
      (.text (release.content field)) = some (release.entries (before ++ [field])) := by
    rw [longer]
    exact Entries.bind_of_absent absent
  rw [binding, Draft.read, bound]
  rfl

theorem read_bindings (release : Release) (members : List Entries) {before order : List Field}
    (distinct : (before ++ order).Nodup) :
    (order.map release.binding).foldlM Draft.read (opened members (release.entries before)) =
      some (opened members (release.entries (before ++ order))) := by
  -- The fields in front are already bound in the open record, and the next one is new to it.
  induction order generalizing before with
  | nil =>
      rw [List.append_nil]
      rfl
  | cons field order ih =>
      have new : field ∉ before := fun inside =>
        (List.nodup_append.1 distinct).2.2 field inside field List.mem_cons_self rfl
      rw [List.append_cons] at distinct ⊢
      rw [List.map_cons, List.foldlM_cons, read_binding release members new]
      exact ih distinct

/-- Reading a record puts one member behind those in place. -/
theorem read_record (release : Release) {order : List Field} (distinct : order.Nodup) {draft : Draft}
    {members : List Entries} (closed : draft.close = some (placed members)) :
    (release.statements order).foldlM Draft.read draft =
      some (opened members (release.entries order)) := by
  rw [statements, List.foldlM_cons, read_member closed]
  exact @read_bindings release members [] order distinct

theorem read_records {records : List (Release × List Field)}
    (distinct : ∀ record ∈ records, record.2.Nodup) {draft : Draft} {members : List Entries}
    (closed : draft.close = some (placed members)) :
    ∃ after, (records.flatMap fun record => record.1.statements record.2).foldlM Draft.read draft =
        some after ∧
      after.close = some (placed (members ++ records.map fun record => record.1.entries record.2)) := by
  -- What a draft comes to once it is closed is all that the next header looks at.
  induction records generalizing draft members with
  | nil => exact ⟨draft, rfl, by simpa using closed⟩
  | cons record records ih =>
      obtain ⟨head, rest⟩ := List.forall_mem_cons.1 distinct
      obtain ⟨after, read, closedToo⟩ := ih rest (close_opened members (record.1.entries record.2))
      refine ⟨after, ?_, ?_⟩
      · rw [List.flatMap_cons, List.foldlM_append, read_record record.1 head closed]
        exact read
      · rw [closedToo, List.append_assoc]
        rfl

/-! ## Reading the records -/

def Fields.get (found : Fields) : Field → Option String
  | .version => found.version
  | .archive => found.archive
  | .installer => found.installer

theorem Fields.get_fill (found : Fields) (field asked : Field) (content : String) :
    (found.fill field content).get asked = if asked = field then some content else found.get asked := by
  cases field <;> cases asked <;> rfl

theorem Fields.complete_of_get {found : Fields} {release : Release}
    (all : ∀ field, found.get field = some (release.content field)) : found.complete = .ok release := by
  have version : found.version = some release.version := all .version
  have archive : found.archive = some release.archive := all .archive
  have installer : found.installer = some release.installer := all .installer
  rw [complete, version, archive, installer]

theorem named_name (field : Field) : Field.named? field.name = some field := by
  cases field <;> rfl

/-- Fields that have been read or are still to come make the record complete, in whatever order they
stand. -/
theorem read_fields_complete (release : Release) {order : List Field} {found : Fields}
    (covered : ∀ field, field ∈ order ∨ found.get field = some (release.content field)) :
    (readFields found (entryValues (release.entries order)) >>= Fields.complete) = .ok release := by
  induction order generalizing found with
  | nil => exact Fields.complete_of_get fun field => (covered field).resolve_left List.not_mem_nil
  | cons field order ih =>
      have filled : readFields found (entryValues (release.entries (field :: order))) =
          readFields (found.fill field (release.content field))
            (entryValues (release.entries order)) := by
        simp only [entries, List.map_cons, entryValues, readFields, named_name]
        rfl
      rw [filled]
      refine ih fun asked => ?_
      rw [Fields.get_fill]
      by_cases same : asked = field
      · rw [if_pos same, same]
        exact .inr rfl
      · rw [if_neg same]
        exact (covered asked).imp_left fun inside => (List.mem_cons.1 inside).resolve_left same

theorem of_value_entries (release : Release) {order : List Field}
    (complete : order.Perm [.version, .archive, .installer]) :
    ofValue (.table (entryValues (release.entries order))) = .ok release := by
  refine read_fields_complete release fun field => .inl (complete.mem_iff.2 ?_)
  cases field <;> decide

theorem of_document_placed (members : List Entries) :
    ofDocument (entryValues (placed members)) = (memberValues members).mapM ofValue := by
  cases members <;> rfl

theorem all_of_value_entries {records : List (Release × List Field)}
    (complete : ∀ record ∈ records, record.2.Perm [.version, .archive, .installer]) :
    (memberValues (records.map fun record => record.1.entries record.2)).mapM ofValue =
      .ok (records.map Prod.fst) := by
  induction records with
  | nil => rfl
  | cons record records ih =>
      obtain ⟨head, rest⟩ := List.forall_mem_cons.1 complete
      rw [List.map_cons, memberValues, List.mapM_cons, of_value_entries record.1 head, ih rest]
      rfl

/-- The releases of a text are those that it lists. -/
theorem parse_all_of_lists {releases : List Release} {content : String}
    (lists : Lists releases content) : parseAll content = .ok releases := by
  obtain ⟨records, rfl, orders, statements⟩ := statements_of_lists lists
  have distinct : ∀ record ∈ records, record.2.Nodup := fun record inside =>
    (orders record inside).nodup_iff.2 (by decide)
  have start : ({} : Draft).close = some (placed []) := rfl
  obtain ⟨after, read, closed⟩ := read_records distinct start
  have document : document? content =
      some (entryValues (placed (records.map fun record => record.1.entries record.2))) := by
    rw [document?, statements]
    simp [entriesOf?, read, closed]
  rw [parseAll, document]
  exact (of_document_placed _).trans (all_of_value_entries orders)

/-! ## Writing -/

theorem field_line_writes (release : Release) (field : Field) :
    release.WritesField field (release.fieldLine field) :=
  ⟨_, spelled_basic_escaped _, rfl⟩

theorem written_writes (release : Release) {order : List Field}
    (complete : order.Perm [.version, .archive, .installer]) :
    release.WritesRecord (release.written order) := by
  refine ⟨order, order.map release.fieldLine, complete, ?_, ?_⟩
  · rw [List.forall₂_map_right_iff]
    exact List.forall₂_same.2 fun field _ => release.field_line_writes field
  · unfold written
    rw [List.flatMap_def]

theorem listed_lists {records : List (Release × List Field)}
    (complete : ∀ record ∈ records, record.2.Perm [.version, .archive, .installer]) :
    Lists (records.map Prod.fst) (listed records) := by
  refine ⟨records.map fun record => record.1.written record.2, ?_, ?_⟩
  · rw [List.forall₂_map_left_iff, List.forall₂_map_right_iff]
    exact List.forall₂_same.2 fun record inside => record.1.written_writes (complete record inside)
  · rw [listed, List.flatMap_def]

end Release

namespace ReleaseTable

theorem parse_of_parse_all {releases : List Release} {content : String}
    (read : Release.parseAll content = .ok releases) :
    parse content = (ofReleases releases).mapError .releaseTable := by
  rw [parse, read]
  dsimp only
  cases ofReleases releases <;> rfl

/-- However a list of releases is written, its text has a table exactly if the versions are distinct. The
table has those versions, and answers each with its release. If a version stands in the list twice, the
text is refused because of such a version, and never as a document. -/
theorem parse_of_lists {releases : List Release} {content : String}
    (lists : Release.Lists releases content) :
    ((releases.map Release.version).Nodup →
      ∃ table, parse content = .ok table ∧
        table.versions.Perm (releases.map Release.version) ∧
        ∀ version release, table.get? version = some release ↔
          release ∈ releases ∧ release.version = version) ∧
    (¬ (releases.map Release.version).Nodup →
      ∃ version, 2 ≤ (releases.map Release.version).count version ∧
        parse content = .error (.releaseTable (.duplicateVersion version))) := by
  rw [parse_of_parse_all (Release.parse_all_of_lists lists)]
  have ends := ending releases
  generalize ofReleases releases = answer at ends ⊢
  cases ends with
  | @table table distinct holds =>
      exact ⟨fun _ => ⟨table, rfl, holds.versions_perm distinct, holds⟩,
        fun repeats => absurd distinct repeats⟩
  | @repeated before after release split distinct again =>
      have twice : 2 ≤ (releases.map Release.version).count release.version := by
        rw [split, List.map_append, List.count_append, List.map_cons, List.count_cons_self]
        have once := List.count_pos_iff.2 again
        omega
      refine ⟨fun distinct => ?_, fun _ => ⟨release.version, twice, rfl⟩⟩
      exact absurd (List.nodup_iff_count_le_one.1 distinct release.version) (by omega)

/-- Releases with texts that are empty, that have to be escaped, and that look like parts of a document. -/
def awkwardRecords : List (Release × List Release.Field) :=
  [(⟨"", "a\"b\\c", "#[=\n\t\x00\x7f"⟩, [.installer, .version, .archive]),
    (⟨"1.8.21 # \u00e9", "\"\"\"", "[[release]]\nversion = ''"⟩, [.archive, .installer, .version])]

theorem awkward_records_are_read :
    (∃ table, parse (Release.listed awkwardRecords) = .ok table ∧
      (∀ record ∈ awkwardRecords, table.get? record.1.version = some record.1) ∧
      table.get? "1.8.21" = none) ∧
    ∃ version, parse (Release.listed (awkwardRecords ++ awkwardRecords)) =
      .error (.releaseTable (.duplicateVersion version)) := by
  constructor
  · have lists : Release.Lists (awkwardRecords.map Prod.fst) (Release.listed awkwardRecords) :=
      Release.listed_lists (by decide)
    obtain ⟨table, read, _, answers⟩ := (parse_of_lists lists).1 (by decide)
    refine ⟨table, read, ?_, ?_⟩
    · intro record inside
      exact (answers _ _).2 ⟨List.mem_map_of_mem inside, rfl⟩
    · have unlisted : ∀ release ∈ awkwardRecords.map Prod.fst, release.version ≠ "1.8.21" := by
        decide
      refine Option.eq_none_iff_forall_ne_some.2 fun release found => ?_
      obtain ⟨inside, version⟩ := (answers _ _).1 found
      exact unlisted release inside version
  · have lists : Release.Lists ((awkwardRecords ++ awkwardRecords).map Prod.fst)
        (Release.listed (awkwardRecords ++ awkwardRecords)) := Release.listed_lists (by decide)
    obtain ⟨version, _, refused⟩ := (parse_of_lists lists).2 (by decide)
    exact ⟨version, refused⟩

end ReleaseTable

end Provision
