import Provision.Proofs.DecodedTable
import Provision.Proofs.DistinctKeys

/-!
# Records of a document

Which values are records of a release, which documents list releases, and which fault each other one
has. A value is either a record, of one release, or has one fault, so reading is settled by that: the
releases of a text are those that its document lists, and otherwise the text is refused with the fault
of its first value that is no record, whatever versions stand in it.
-/

namespace Provision.Release

open Toml

variable {entries before after : List (String × Value)} {value other : Value} {field : Field}

/-! ## Records and faults -/

def IsText (value : Value) : Prop := ∃ content, value = .text content

/-- Every field that stands in the entries is a string. Other keys do not count. -/
def Typed (entries : List (String × Value)) : Prop :=
  ∀ entry ∈ entries, ∀ field : Field, entry.1 = field.name → IsText entry.2

/-- The value is a record of a release: a table with the fields of the release, or an array that begins
with them. -/
inductive IsRecord (release : Release) : Value → Prop where
  | table {entries : List (String × Value)}
      (fields : ∀ field : Field, entries.lookup field.name = some (.text (release.content field))) :
      IsRecord release (.table entries)
  | array (rest : List Value) :
      IsRecord release
        (.array (.text release.version :: .text release.archive :: .text release.installer :: rest))

def Field.earlier : Field → List Field
  | .version => []
  | .archive => [.version]
  | .installer => [.version, .archive]

/-- What is wrong with a value that is no record. In a table it is the first field that is no string, or
else the first that is absent; a date has no fields. In an array it is the first of the three elements
that is no string, or else that there are too few. -/
inductive RecordFault : Value → Fault → Prop where
  | mistyped {before after : List (String × Value)} {field : Field} {value : Value}
      (earlier : Typed before) (noText : ¬ IsText value) :
      RecordFault (.table (before ++ (field.name, value) :: after)) (.wrongShape value .text)
  | absent {entries : List (String × Value)} {field : Field} (typed : Typed entries)
      (earlier : ∀ other ∈ field.earlier, entries.lookup other.name ≠ none)
      (missing : entries.lookup field.name = none) :
      RecordFault (.table entries) (.missingField field.name)
  | date : RecordFault .dateTime (.missingField Field.version.name)
  | mistypedElement {before after : List Value} {value : Value} (counts : before.length < 3)
      (earlier : ∀ element ∈ before, IsText element) (noText : ¬ IsText value) :
      RecordFault (.array (before ++ value :: after)) (.wrongShape value .text)
  | short {elements : List Value} (few : elements.length < 3)
      (typed : ∀ element ∈ elements, IsText element) :
      RecordFault (.array elements) (.tooShort elements.length)
  | shape {value : Value} (noTable : ∀ entries, value ≠ .table entries) (noDate : value ≠ .dateTime)
      (noArray : ∀ elements, value ≠ .array elements) :
      RecordFault value (.wrongShape value .record)

/-! ## Tables -/

theorem text_of_other (noText : ¬ IsText value) :
    textOf value = .error (.wrongShape value .text) := by
  cases value with
  | text content => exact absurd ⟨content, rfl⟩ noText
  | _ => rfl

theorem named_eq_some_iff {name : String} : Field.named? name = some field ↔ name = field.name := by
  constructor
  · unfold Field.named?
    split
    · rintro ⟨⟩
      assumption
    · split
      · rintro ⟨⟩
        assumption
      · split
        · rintro ⟨⟩
          assumption
        · rintro ⟨⟩
  · rintro rfl
    exact named_name field

theorem read_fields_append (found : Fields) (before after : List (String × Value)) :
    readFields found (before ++ after) = readFields found before >>= (readFields · after) := by
  induction before generalizing found with
  | nil => rfl
  | cons entry before ih =>
      obtain ⟨name, value⟩ := entry
      rw [List.cons_append, readFields, readFields]
      cases Field.named? name with
      | none => exact ih found
      | some field =>
          dsimp only
          cases textOf value with
          | ok content => exact ih _
          | error fault => rfl

/-- What is found once the entries have been read: their strings, and elsewhere what was found
before. -/
structure Filled (entries : List (String × Value)) (found filled : Fields) : Prop where
  present : ∀ field : Field, ∀ content, entries.lookup field.name = some (.text content) →
    filled.get field = some content
  absent : ∀ field : Field, entries.lookup field.name = none → filled.get field = found.get field

theorem Filled.skip {found filled : Fields} (fills : Filled entries found filled) {name : String}
    (unnamed : ∀ field : Field, field.name ≠ name) :
    Filled ((name, value) :: entries) found filled := by
  constructor
  · intro field content known
    rw [lookup_cons_of_ne (unnamed field)] at known
    exact fills.present field content known
  · intro field unknown
    rw [lookup_cons_of_ne (unnamed field)] at unknown
    exact fills.absent field unknown

theorem Filled.fill {found filled : Fields} {content : String}
    (fills : Filled entries (found.fill field content) filled)
    (fresh : field.name ∉ entries.map Prod.fst) :
    Filled ((field.name, .text content) :: entries) found filled := by
  have apart : ∀ {asked : Field}, asked ≠ field → asked.name ≠ field.name := fun differs same =>
    differs (field_name_inj same)
  constructor
  · intro asked expected known
    by_cases same : asked = field
    · subst same
      rw [List.lookup_cons_self] at known
      cases known
      rw [fills.absent asked (lookup_of_fresh fresh), Fields.get_fill, if_pos rfl]
    · rw [lookup_cons_of_ne (apart same)] at known
      exact fills.present asked expected known
  · intro asked unknown
    have differs : asked ≠ field := by
      rintro rfl
      rw [List.lookup_cons_self] at unknown
      cases unknown
    rw [lookup_cons_of_ne (apart differs)] at unknown
    rw [fills.absent asked unknown, Fields.get_fill, if_neg differs]

theorem read_fields_of_typed (typed : Typed entries) (keys : (entries.map Prod.fst).Nodup)
    (found : Fields) : ∃ filled, readFields found entries = .ok filled ∧ Filled entries found filled := by
  induction entries generalizing found with
  | nil => exact ⟨found, rfl, by simp, fun _ _ => rfl⟩
  | cons entry entries ih =>
      obtain ⟨name, value⟩ := entry
      obtain ⟨fresh, keysLater⟩ := List.nodup_cons.1 keys
      obtain ⟨head, later⟩ := List.forall_mem_cons.1 typed
      rw [readFields]
      cases named : Field.named? name with
      | none =>
          obtain ⟨filled, read, fills⟩ := ih later keysLater found
          refine ⟨filled, read, fills.skip ?_⟩
          rintro field rfl
          rw [named_name] at named
          cases named
      | some field =>
          cases named_eq_some_iff.1 named
          obtain ⟨content, rfl⟩ := head field rfl
          obtain ⟨filled, read, fills⟩ := ih later keysLater (found.fill field content)
          exact ⟨filled, read, fills.fill fresh⟩

theorem read_fields_of_mistyped (earlier : Typed before) (noText : ¬ IsText value)
    (keys : ((before ++ (field.name, value) :: after).map Prod.fst).Nodup) (found : Fields) :
    readFields found (before ++ (field.name, value) :: after) = .error (.wrongShape value .text) := by
  rw [List.map_append] at keys
  obtain ⟨filled, read, _⟩ := read_fields_of_typed earlier (List.nodup_append.1 keys).1 found
  have stops : readFields filled ((field.name, value) :: after) = .error (.wrongShape value .text) := by
    rw [readFields, named_name]
    dsimp only
    rw [text_of_other noText]
  rw [read_fields_append, read]
  exact stops

theorem Fields.complete_of_absent {found : Fields}
    (present : ∀ other ∈ field.earlier, found.get other ≠ none) (missing : found.get field = none) :
    found.complete = .error (.missingField field.name) := by
  obtain ⟨version, archive, installer⟩ := found
  cases field with
  | version =>
      cases missing
      rfl
  | archive =>
      obtain ⟨first, known⟩ := Option.ne_none_iff_exists'.1 (present .version (by decide))
      cases known
      cases missing
      rfl
  | installer =>
      obtain ⟨first, known⟩ := Option.ne_none_iff_exists'.1 (present .version (by decide))
      obtain ⟨second, knownToo⟩ := Option.ne_none_iff_exists'.1 (present .archive (by decide))
      cases known
      cases knownToo
      cases missing
      rfl

theorem text_of_lookup (typed : Typed entries) (found : entries.lookup field.name = some value) :
    IsText value :=
  typed (field.name, value) (mem_of_lookup found) field rfl

theorem of_value_of_absent (typed : Typed entries)
    (earlier : ∀ other ∈ field.earlier, entries.lookup other.name ≠ none)
    (missing : entries.lookup field.name = none) (keys : (entries.map Prod.fst).Nodup) :
    ofValue (.table entries) = .error (.missingField field.name) := by
  obtain ⟨filled, read, fills⟩ := read_fields_of_typed typed keys {}
  have empty : ({} : Fields).get field = none := by
    cases field <;> rfl
  rw [ofValue, read]
  refine Fields.complete_of_absent ?_ ((fills.absent field missing).trans empty)
  intro other before
  obtain ⟨value, found⟩ := Option.ne_none_iff_exists'.1 (earlier other before)
  obtain ⟨content, rfl⟩ := text_of_lookup typed found
  rw [fills.present other content found]
  exact Option.some_ne_none content

theorem of_value_of_record_table {release : Release}
    (fields : ∀ field : Field, entries.lookup field.name = some (.text (release.content field)))
    (keys : (entries.map Prod.fst).Nodup) : ofValue (.table entries) = .ok release := by
  have typed : Typed entries := by
    rintro ⟨name, value⟩ inside field rfl
    have found := lookup_of_mem keys inside
    rw [fields field] at found
    exact ⟨release.content field, (Option.some_inj.1 found).symm⟩
  obtain ⟨filled, read, fills⟩ := read_fields_of_typed typed keys {}
  rw [ofValue, read]
  exact Fields.complete_of_get fun field => fills.present field _ (fields field)

/-- A property holds of all members of a list, or there is a first one of which it does not. -/
theorem forall_or_first {α : Type} (property : α → Prop) (list : List α) :
    (∀ member ∈ list, property member) ∨ ∃ before member after, list = before ++ member :: after ∧
      (∀ earlier ∈ before, property earlier) ∧ ¬ property member := by
  induction list with
  | nil => exact .inl (by simp)
  | cons head list ih =>
      by_cases holds : property head
      · rcases ih with all | ⟨before, member, after, rfl, earlier, fails⟩
        · exact .inl (List.forall_mem_cons.2 ⟨holds, all⟩)
        · exact .inr ⟨head :: before, member, after, rfl, List.forall_mem_cons.2 ⟨holds, earlier⟩, fails⟩
      · exact .inr ⟨[], head, list, rfl, by simp, holds⟩

theorem table_record_or_fault (entries : List (String × Value)) :
    (∃ release, IsRecord release (.table entries)) ∨ ∃ fault, RecordFault (.table entries) fault := by
  rcases forall_or_first (fun entry => ∀ field : Field, entry.1 = field.name → IsText entry.2) entries
    with typed | ⟨before, ⟨name, value⟩, after, rfl, earlier, fails⟩
  · by_cases version : entries.lookup Field.version.name = none
    · exact .inr ⟨_, .absent typed (by simp [Field.earlier]) version⟩
    by_cases archive : entries.lookup Field.archive.name = none
    · exact .inr ⟨_, .absent typed (by simpa only [Field.earlier, List.forall_mem_singleton]) archive⟩
    by_cases installer : entries.lookup Field.installer.name = none
    · have earlier : ∀ other ∈ Field.installer.earlier, entries.lookup other.name ≠ none := by
        simpa only [Field.earlier, List.forall_mem_cons, List.not_mem_nil, false_implies,
          implies_true, and_true] using ⟨version, archive⟩
      exact .inr ⟨_, .absent typed earlier installer⟩
    have present : ∀ field : Field, entries.lookup field.name ≠ none →
        ∃ content, entries.lookup field.name = some (.text content) := by
      intro field known
      obtain ⟨value, found⟩ := Option.ne_none_iff_exists'.1 known
      obtain ⟨content, rfl⟩ := text_of_lookup typed found
      exact ⟨content, found⟩
    obtain ⟨first, firstFound⟩ := present _ version
    obtain ⟨second, secondFound⟩ := present _ archive
    obtain ⟨third, thirdFound⟩ := present _ installer
    refine .inl ⟨⟨first, second, third⟩, .table fun field => ?_⟩
    cases field <;> assumption
  · obtain ⟨field, rfl, noText⟩ : ∃ field : Field, name = field.name ∧ ¬ IsText value := by
      simpa using fails
    exact .inr ⟨_, .mistyped earlier noText⟩

/-! ## Arrays -/

theorem of_elements_of_mistyped {before after : List Value} (counts : before.length < 3)
    (earlier : ∀ element ∈ before, IsText element) (noText : ¬ IsText value) :
    ofElements (before ++ value :: after) = .error (.wrongShape value .text) := by
  have stops := text_of_other noText
  match before with
  | [] =>
      rw [List.nil_append, ofElements, stops]
      rfl
  | [version] =>
      obtain ⟨content, rfl⟩ := earlier version List.mem_cons_self
      rw [List.singleton_append, ofElements, textOf]
      dsimp only
      rw [stops]
      rfl
  | [version, archive] =>
      obtain ⟨⟨first, rfl⟩, second, rfl⟩ : IsText version ∧ IsText archive := by simpa using earlier
      change (textOf value >>= fun installer => Except.ok (⟨first, second, installer⟩ : Release)) = _
      rw [stops]
      rfl
  | _ :: _ :: _ :: _ =>
      simp at counts
      omega

theorem of_elements_of_short {elements : List Value} (few : elements.length < 3)
    (typed : ∀ element ∈ elements, IsText element) :
    ofElements elements = .error (.tooShort elements.length) := by
  match elements with
  | [] => rfl
  | [version] =>
      obtain ⟨content, rfl⟩ := typed version List.mem_cons_self
      rfl
  | [version, archive] =>
      obtain ⟨⟨first, rfl⟩, second, rfl⟩ : IsText version ∧ IsText archive := by simpa using typed
      rfl
  | _ :: _ :: _ :: _ =>
      simp at few
      omega

theorem record_of_texts {before : List Value} (enough : 3 ≤ before.length)
    (typed : ∀ element ∈ before, IsText element) (after : List Value) :
    ∃ release, IsRecord release (.array (before ++ after)) := by
  match before with
  | version :: archive :: installer :: rest =>
      obtain ⟨first, rfl⟩ := typed version (by simp)
      obtain ⟨second, rfl⟩ := typed archive (by simp)
      obtain ⟨third, rfl⟩ := typed installer (by simp)
      exact ⟨⟨first, second, third⟩, .array (rest ++ after)⟩
  | [] | [_] | [_, _] =>
      simp at enough

theorem array_record_or_fault (elements : List Value) :
    (∃ release, IsRecord release (.array elements)) ∨
      ∃ fault, RecordFault (.array elements) fault := by
  -- A first element that is no string is at fault unless three strings stand before it.
  rcases forall_or_first IsText elements with typed | ⟨before, value, after, rfl, earlier, noText⟩
  · by_cases few : elements.length < 3
    · exact .inr ⟨_, .short few typed⟩
    · have record := record_of_texts (Nat.le_of_not_lt few) typed []
      rw [List.append_nil] at record
      exact .inl record
  · by_cases counts : before.length < 3
    · exact .inr ⟨_, .mistypedElement counts earlier noText⟩
    · exact .inl (record_of_texts (Nat.le_of_not_lt counts) earlier (value :: after))

/-! ## Values -/

theorem of_value_of_record {release : Release} (record : IsRecord release value)
    (distinct : value.Distinct) : ofValue value = .ok release := by
  cases record with
  | table fields =>
      cases distinct with
      | table keys _ => exact of_value_of_record_table fields keys
  | array rest => rfl

theorem of_value_of_fault {fault : Fault} (faulty : RecordFault value fault)
    (distinct : value.Distinct) : ofValue value = .error fault := by
  cases faulty with
  | mistyped earlier noText =>
      cases distinct with
      | table keys _ =>
          rw [ofValue, read_fields_of_mistyped earlier noText keys]
          rfl
  | absent typed earlier missing =>
      cases distinct with
      | table keys _ => exact of_value_of_absent typed earlier missing keys
  | date => rfl
  | mistypedElement counts earlier noText => exact of_elements_of_mistyped counts earlier noText
  | short few typed => exact of_elements_of_short few typed
  | shape noTable noDate noArray =>
      cases value with
      | table entries => exact absurd rfl (noTable entries)
      | dateTime => exact absurd rfl noDate
      | array elements => exact absurd rfl (noArray elements)
      | _ => rfl

theorem record_or_fault (value : Value) :
    (∃ release, IsRecord release value) ∨ ∃ fault, RecordFault value fault := by
  cases value with
  | table entries => exact table_record_or_fault entries
  | array elements => exact array_record_or_fault elements
  | dateTime => exact .inr ⟨_, .date⟩
  | _ => exact .inr ⟨_, .shape nofun nofun nofun⟩

/-! ## Lists -/

/-- The document lists the releases: it has no list and there are none, or its list is an array of
their records. -/
inductive ListsReleases (entries : List (String × Value)) : List Release → Prop where
  | absent (missing : entries.lookup listKey = none) : ListsReleases entries []
  | array {elements : List Value} {releases : List Release}
      (found : entries.lookup listKey = some (.array elements))
      (records : List.Forall₂ IsRecord releases elements) : ListsReleases entries releases

/-- What is wrong with a document that lists no releases: its list is no array, or is the fault of its
first element that is no record. -/
inductive ListFault (entries : List (String × Value)) : Fault → Prop where
  | shape {value : Value} (found : entries.lookup listKey = some value)
      (noArray : ∀ elements, value ≠ .array elements) : ListFault entries (.wrongShape value .sequence)
  | element {before after : List Value} {value : Value} {releases : List Release} {fault : Fault}
      (found : entries.lookup listKey = some (.array (before ++ value :: after)))
      (records : List.Forall₂ IsRecord releases before) (faulty : RecordFault value fault) :
      ListFault entries fault

theorem all_of_records {elements : List Value} {releases : List Release}
    (records : List.Forall₂ IsRecord releases elements)
    (distinct : ∀ element ∈ elements, element.Distinct) : elements.mapM ofValue = .ok releases := by
  induction records with
  | nil => rfl
  | cons record _ ih =>
      obtain ⟨head, rest⟩ := List.forall_mem_cons.1 distinct
      rw [List.mapM_cons, of_value_of_record record head, ih rest]
      rfl

theorem all_of_fault {before after : List Value} {releases : List Release} {fault : Fault}
    (records : List.Forall₂ IsRecord releases before) (faulty : RecordFault value fault)
    (distinct : ∀ element ∈ before ++ value :: after, element.Distinct) :
    (before ++ value :: after).mapM ofValue = .error fault := by
  obtain ⟨earlier, later⟩ := List.forall_mem_append.1 distinct
  rw [List.mapM_append, all_of_records records earlier, List.mapM_cons,
    of_value_of_fault faulty (List.forall_mem_cons.1 later).1]
  rfl

theorem elements_distinct {key : String} {elements : List Value}
    (found : entries.lookup key = some (.array elements)) (distinct : Value.Distinct (.table entries)) :
    ∀ element ∈ elements, element.Distinct := by
  cases distinct with
  | table _ each =>
      have array := each (key, .array elements) (mem_of_lookup found)
      cases array with
      | array each => exact each

theorem of_document_of_lists {releases : List Release} (lists : ListsReleases entries releases)
    (distinct : Value.Distinct (.table entries)) : ofDocument entries = .ok releases := by
  cases lists with
  | absent missing => rw [ofDocument, missing]
  | array found records =>
      rw [ofDocument, found]
      exact all_of_records records (elements_distinct found distinct)

theorem of_document_of_fault {fault : Fault} (faulty : ListFault entries fault)
    (distinct : Value.Distinct (.table entries)) : ofDocument entries = .error fault := by
  cases faulty with
  | @shape value found noArray =>
      rw [ofDocument, found]
      cases value with
      | array elements => exact absurd rfl (noArray elements)
      | _ => rfl
  | element found records faulty =>
      rw [ofDocument, found]
      exact all_of_fault records faulty (elements_distinct found distinct)

theorem records_of_forall {elements : List Value}
    (all : ∀ element ∈ elements, ∃ release, IsRecord release element) :
    ∃ releases, List.Forall₂ IsRecord releases elements := by
  induction elements with
  | nil => exact ⟨[], .nil⟩
  | cons element elements ih =>
      obtain ⟨⟨release, record⟩, rest⟩ := List.forall_mem_cons.1 all
      obtain ⟨releases, records⟩ := ih rest
      exact ⟨release :: releases, .cons record records⟩

theorem lists_or_fault (entries : List (String × Value)) :
    (∃ releases, ListsReleases entries releases) ∨ ∃ fault, ListFault entries fault := by
  cases found : entries.lookup listKey with
  | none => exact .inl ⟨[], .absent found⟩
  | some value =>
      cases value with
      | array elements =>
          rcases forall_or_first (fun element => ∃ release, IsRecord release element) elements with
            all | ⟨before, value, after, rfl, earlier, noRecord⟩
          · obtain ⟨releases, records⟩ := records_of_forall all
            exact .inl ⟨releases, .array found records⟩
          · obtain ⟨releases, records⟩ := records_of_forall earlier
            obtain ⟨fault, faulty⟩ := (record_or_fault value).resolve_left noRecord
            exact .inr ⟨fault, .element found records faulty⟩
      | _ => exact .inr ⟨_, .shape found nofun⟩

/-- Reading a document answers with the releases that it lists, or with its fault. -/
theorem of_document_iff (distinct : Value.Distinct (.table entries)) :
    (∀ releases, ofDocument entries = .ok releases ↔ ListsReleases entries releases) ∧
      ∀ fault, ofDocument entries = .error fault ↔ ListFault entries fault := by
  refine ⟨fun releases => ⟨fun answered => ?_, fun lists => of_document_of_lists lists distinct⟩,
    fun fault => ⟨fun answered => ?_, fun faulty => of_document_of_fault faulty distinct⟩⟩
  · rcases lists_or_fault entries with ⟨others, lists⟩ | ⟨fault, faulty⟩
    · rw [of_document_of_lists lists distinct] at answered
      cases answered
      exact lists
    · rw [of_document_of_fault faulty distinct] at answered
      cases answered
  · rcases lists_or_fault entries with ⟨releases, lists⟩ | ⟨other, faulty⟩
    · rw [of_document_of_lists lists distinct] at answered
      cases answered
    · rw [of_document_of_fault faulty distinct] at answered
      cases answered
      exact faulty

end Provision.Release

namespace Provision.ReleaseTable

open Release

theorem parse_of_fault {content : String} {fault : Toml.Fault}
    (refused : Release.parseAll content = .error fault) :
    parse content = .error (.releaseTable (.document fault)) := by
  rw [parse, refused]

theorem parse_document_iff {content : String} {fault : Toml.Fault} :
    parse content = .error (.releaseTable (.document fault)) ↔
      Release.parseAll content = .error fault := by
  refine ⟨fun refused => ?_, parse_of_fault⟩
  cases answered : Release.parseAll content with
  | error other =>
      rw [parse_of_fault answered] at refused
      cases refused
      rfl
  | ok releases =>
      obtain ⟨_, made, same⟩ := parse_eq_error answered refused
      obtain ⟨_, _, _, _, _, _, rfl⟩ := of_releases_eq_error made
      cases same

/-- The releases of a document are read exactly if it lists them, as tables or arrays of strings, and they
are read in its order. Any other document is refused with the fault of its first value that is no record,
even if a version stands in it twice. -/
theorem parse_of_document {content : String} {entries : List (String × Toml.Value)}
    (document : Toml.document? content = some entries) :
    (∀ releases, Release.parseAll content = .ok releases ↔ ListsReleases entries releases) ∧
      (∀ fault, parse content = .error (.releaseTable (.document fault)) ↔ ListFault entries fault) ∧
      ((¬ ∃ releases, ListsReleases entries releases) → ∃ fault, ListFault entries fault) := by
  have read : Release.parseAll content = ofDocument entries := by
    rw [Release.parseAll, document]
  obtain ⟨lists, faults⟩ := of_document_iff (Toml.document_distinct document)
  refine ⟨fun releases => ?_, fun fault => ?_, (lists_or_fault entries).resolve_left⟩
  · rw [read, lists]
  · rw [parse_document_iff, read, faults]

/-- Two records of one version, and behind them a table whose fields are no strings. -/
def mixedText : String :=
  "release = [['1', 'a', 'b', 7], \x7bversion = '1', archive = 'a', size = 7, installer = 'b'\x7d, " ++
    "\x7binstaller = 1, version = 2\x7d]"

def mistypedTable : Toml.Value := .table [("installer", .integer 1), ("version", .integer 2)]

def mixedEntries : List (String × Toml.Value) :=
  [(listKey, .array
    [ .array [.text "1", .text "a", .text "b", .integer 7],
      .table [("version", .text "1"), ("archive", .text "a"), ("size", .integer 7),
        ("installer", .text "b")],
      mistypedTable ])]

set_option maxRecDepth 20000 in
theorem document_mixed_text : Toml.document? mixedText = some mixedEntries := by
  unfold Toml.document? Toml.statements? mixedText
  simp only [String.toList_append, String.reduceToList]
  rfl

theorem mixed_text_is_refused :
    Toml.document? mixedText = some mixedEntries ∧
      parse mixedText = .error (.releaseTable (.document (.wrongShape (.integer 1) .text))) ∧
      ∀ releases, Release.parseAll mixedText ≠ .ok releases := by
  have outcome := parse_of_document document_mixed_text
  have noText : ¬ IsText (.integer 1) := by
    rintro ⟨_, same⟩
    cases same
  have last : RecordFault mistypedTable (.wrongShape (.integer 1) .text) :=
    @RecordFault.mistyped [] _ .installer _ (by simp [Typed]) noText
  have first : IsRecord ⟨"1", "a", "b"⟩ (.array [.text "1", .text "a", .text "b", .integer 7]) :=
    .array [.integer 7]
  have second : IsRecord ⟨"1", "a", "b"⟩ (.table [("version", .text "1"), ("archive", .text "a"),
      ("size", .integer 7), ("installer", .text "b")]) := by
    refine .table fun field => ?_
    cases field <;> rfl
  have refused := (outcome.2.1 _).2
    (@ListFault.element mixedEntries [_, _] [] _ _ _ rfl (.cons first (.cons second .nil)) last)
  refine ⟨document_mixed_text, refused, fun releases answered => ?_⟩
  rw [parse_document_iff, answered] at refused
  cases refused

end Provision.ReleaseTable
