import Provision.Proofs.ReleaseTable
import Provision.Proofs.Spelling

/-!
# Lists of releases

A list of releases may be written as a document in many ways, since the fields of a record may stand in
any order and their contents may be spelled in any way. However it is written, reading gives back the
list, and so the table of the text is the table of the list.
-/

namespace Provision

/-! ## Lines -/

namespace Toml

def Begins (c : Char) : Prop := isBareKeyChar c = true ∨ c = '['

instance : DecidablePred Begins :=
  fun c => inferInstanceAs (Decidable (isBareKeyChar c = true ∨ c = '['))

theorem Begins.ne {first other : Char} (begins : Begins first) (silent : ¬ Begins other) :
    first ≠ other := by
  rintro rfl
  exact silent begins

/-- A line that stands for a statement, whatever text follows it. -/
structure StandsFor (line : List Char) (statement : Statement) : Prop where
  begins : ∃ first rest, line = first :: rest ∧ Begins first
  reads : ∀ rest, readStatement (line ++ rest) = some (statement, rest)

/-- Where a statement begins there is no blank, no comment and no empty line. -/
theorem read_statements_of_begins {first : Char} (begins : Begins first) (limit : Nat)
    {rest next : List Char} {statement : Statement}
    (reads : readStatement (first :: rest) = some (statement, next)) :
    readStatements (limit + 1) (first :: rest) =
      (readStatements limit next).map (statement :: ·) := by
  have notBlank : skipBlanks (first :: rest) = first :: rest := by
    apply List.dropWhile_cons_of_neg
    simp [begins.ne (by decide : ¬ Begins ' '), begins.ne (by decide : ¬ Begins '\t')]
  have notComment : first ≠ '#' := begins.ne (by decide)
  have notEmpty : afterNewline? (first :: rest) = none := by
    unfold afterNewline?
    split
    · next same =>
        cases same
        exact absurd rfl (begins.ne (by decide : ¬ Begins '\n'))
    · next same =>
        cases same
        exact absurd rfl (begins.ne (by decide : ¬ Begins '\r'))
    · rfl
  rw [readStatements, notBlank]
  split
  · next none => cases none
  · next comment =>
      cases comment
      exact absurd rfl notComment
  · simp only [notEmpty, reads]

section Lines

variable {lines : List (List Char)} {statements : List Statement}

theorem read_statements_of_lines (stand : List.Forall₂ StandsFor lines statements) {limit : Nat}
    (enough : lines.length < limit) : readStatements limit lines.flatten = some statements := by
  induction stand generalizing limit with
  | nil =>
      obtain ⟨limit, rfl⟩ := Nat.exists_eq_succ_of_ne_zero (Nat.ne_zero_of_lt enough)
      rfl
  | @cons line statement lines statements head _ ih =>
      obtain ⟨limit, rfl⟩ := Nat.exists_eq_succ_of_ne_zero (Nat.ne_zero_of_lt enough)
      obtain ⟨first, rest, rfl, begins⟩ := head.begins
      have reads : readStatement (first :: (rest ++ lines.flatten)) =
          some (statement, lines.flatten) := head.reads lines.flatten
      rw [List.flatten_cons, List.cons_append, read_statements_of_begins begins limit reads,
        ih (Nat.lt_of_succ_lt_succ enough)]
      rfl

theorem length_of_lines (stand : List.Forall₂ StandsFor lines statements) :
    lines.length ≤ lines.flatten.length := by
  -- Every line has at least the character with which its statement begins.
  induction stand with
  | nil => exact Nat.le_refl 0
  | cons head _ ih =>
      obtain ⟨first, rest, rfl, _⟩ := head.begins
      simp only [List.length_cons, List.flatten_cons, List.length_append]
      omega

theorem statements_of_lines (stand : List.Forall₂ StandsFor lines statements) :
    statements? (String.ofList lines.flatten) = some statements := by
  have all : readStatements (lines.flatten.length + 1) lines.flatten = some statements :=
    read_statements_of_lines stand (Nat.lt_succ_of_le (length_of_lines stand))
  rw [statements?, String.toList_ofList]
  split
  · next chars marked =>
      -- A byte order mark begins no statement, so the text has none.
      cases stand with
      | nil => cases marked
      | cons head _ =>
          obtain ⟨first, rest, rfl, begins⟩ := head.begins
          cases marked
          exact absurd rfl (begins.ne (by decide : ¬ Begins '\uFEFF'))
  · exact all

end Lines

theorem read_value_of_text {chars content rest : List Char} (reads : readText? chars = some (content, rest))
    (steps depth : Nat) :
    readValue (steps + 1) depth chars = some (.text (String.ofList content), rest) := by
  simp only [readValue, reads]

end Toml

/-! ## Records -/

namespace Release

open Toml

/-- The line of a field: its name, and its content in any spelling. -/
def WritesField (release : Release) (field : Field) (line : List Char) : Prop :=
  ∃ spelled, Spelled (release.content field).toList spelled ∧
    line = field.name.toList ++ " = \"".toList ++ spelled ++ "\"\n".toList

/-- A record: the line that adds a member to the list, and below it the lines of the three fields in
any order. -/
def WritesRecord (release : Release) (record : List Char) : Prop :=
  ∃ order lines, order.Perm [Field.version, .archive, .installer] ∧
    List.Forall₂ release.WritesField order lines ∧
    record = "[[release]]\n".toList ++ lines.flatten

/-- A text that lists releases: their records one after the other. -/
def Lists (releases : List Release) (content : String) : Prop :=
  ∃ records, List.Forall₂ WritesRecord releases records ∧ content = String.ofList records.flatten

def binding (release : Release) (field : Field) : Statement :=
  .bind ⟨[], field.name⟩ (.text (release.content field))

def statements (release : Release) (order : List Field) : List Statement :=
  .member ⟨[], listKey⟩ :: order.map release.binding

theorem header_stands : StandsFor "[[release]]\n".toList (.member ⟨[], listKey⟩) where
  begins := ⟨'[', _, rfl, .inr rfl⟩
  reads _ := rfl

theorem read_statement_of_field (field : Field) (chars : List Char) :
    readStatement (field.name.toList ++ " = ".toList ++ chars) =
      match readValue (2 * (chars.length + 1) + 4) 0 (skipBlanks chars) with
      | some (content, after) =>
          (afterLine? after).map fun next => (.bind ⟨[], field.name⟩ content, next)
      | none => none := by
  cases field <;> rfl

theorem field_stands {release : Release} {field : Field} {line : List Char}
    (writes : release.WritesField field line) : StandsFor line (release.binding field) := by
  obtain ⟨spelled, spells, rfl⟩ := writes
  refine ⟨?_, fun rest => ?_⟩
  · cases field <;> exact ⟨_, _, rfl, .inl rfl⟩
  · have apart : field.name.toList ++ " = \"".toList ++ spelled ++ "\"\n".toList ++ rest =
        field.name.toList ++ " = ".toList ++ '"' :: (spelled ++ '"' :: '\n' :: rest) := by
      simp
    have notBlank : skipBlanks ('"' :: (spelled ++ '"' :: '\n' :: rest)) =
        '"' :: (spelled ++ '"' :: '\n' :: rest) := rfl
    rw [apart, read_statement_of_field, notBlank, read_value_of_text (read_text_of_spelled spells rest),
      String.ofList_toList]
    rfl

theorem record_stands {release : Release} {order : List Field} {lines : List (List Char)}
    (written : List.Forall₂ release.WritesField order lines) :
    List.Forall₂ StandsFor ("[[release]]\n".toList :: lines) (release.statements order) := by
  refine .cons header_stands ?_
  rw [List.forall₂_map_right_iff]
  exact (written.imp fun _ _ => field_stands).flip

/-- A text that lists releases consists of their statements, with the fields in some order. -/
theorem statements_of_lists {releases : List Release} {content : String}
    (lists : Lists releases content) :
    ∃ entries : List (Release × List Field), entries.map Prod.fst = releases ∧
      (∀ entry ∈ entries, entry.2.Perm [.version, .archive, .installer]) ∧
      statements? content = some (entries.flatMap fun entry => entry.1.statements entry.2) := by
  obtain ⟨records, written, rfl⟩ := lists
  have lined : ∃ (entries : List (Release × List Field)) (lines : List (List Char)),
      entries.map Prod.fst = releases ∧
        (∀ entry ∈ entries, entry.2.Perm [.version, .archive, .installer]) ∧
        List.Forall₂ StandsFor lines (entries.flatMap fun entry => entry.1.statements entry.2) ∧
        records.flatten = lines.flatten := by
    induction written with
    | nil => exact ⟨[], [], rfl, by simp, .nil, rfl⟩
    | @cons release record releases records head _ ih =>
        obtain ⟨order, lines, complete, written, rfl⟩ := head
        obtain ⟨entries, later, rfl, orders, stand, same⟩ := ih
        refine ⟨(release, order) :: entries, ("[[release]]\n".toList :: lines) ++ later, rfl, ?_, ?_, ?_⟩
        · exact List.forall_mem_cons.2 ⟨complete, orders⟩
        · exact List.rel_append (record_stands written) stand
        · simp [same]
  obtain ⟨entries, lines, same, orders, stand, joined⟩ := lined
  rw [joined]
  exact ⟨entries, same, orders, statements_of_lines stand⟩

end Release

end Provision
