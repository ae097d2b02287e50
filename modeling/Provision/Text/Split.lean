/-!
# Splitting at a separator

The parts of a list between separators are those of `List.splitOn`: there is one more of them than there
are separators, and with separators between them they are the list again (`List.intercalate_splitOn`).
-/

namespace Provision.Text

export List (splitOn)

variable {α : Type}

def joined (separator : α) (parts : List (List α)) : List α :=
  [separator].intercalate parts

/-- The first line of a text, without the line feed that ends it and a carriage return before that. -/
def firstLine (chars : List Char) : List Char :=
  let line := chars.takeWhile (· ≠ '\n')
  if line.length < chars.length ∧ line.getLast? = some '\r' then line.dropLast else line

variable [BEq α] [LawfulBEq α]

theorem split_on_cons_self (separator : α) (rest : List α) :
    splitOn separator (separator :: rest) = [] :: splitOn separator rest :=
  List.splitOn_append_cons_self [] rest

/-- The first part begins as the list does, unless a separator stands in front. -/
theorem split_on_cons_of_ne {separator item : α} (differs : item ≠ separator) (rest : List α) :
    ∃ part parts, splitOn separator (item :: rest) = (item :: part) :: parts := by
  obtain ⟨part, parts, later⟩ := List.exists_cons_of_ne_nil (List.splitOn_ne_nil separator rest)
  refine ⟨part, parts, ?_⟩
  rw [List.splitOn_cons_eq_if_modifyHead, if_neg (mt eq_of_beq differs), later]
  rfl

/-- Splitting what was joined splits every part of it. -/
theorem split_on_joined (separator : α) {parts : List (List α)} (filled : parts ≠ []) :
    splitOn separator (joined separator parts) = parts.flatMap (splitOn separator) := by
  induction parts with
  | nil => exact absurd rfl filled
  | cons part parts ih =>
      cases parts with
      | nil => simp [joined]
      | cons next parts =>
          have later := ih (List.cons_ne_nil next parts)
          rw [joined] at later ⊢
          rw [List.flatMap_cons, ← later, List.intercalate_cons_cons, List.append_assoc]
          exact List.splitOn_append_cons_self part _

/-- What stands before the first separator of a list, and what stands behind it, are determined by the
list. -/
theorem append_separator_inj {separator : α} {front frontToo back backToo : List α}
    (absent : separator ∉ front) (absentToo : separator ∉ frontToo)
    (same : front ++ separator :: back = frontToo ++ separator :: backToo) :
    front = frontToo ∧ back = backToo := by
  have parts := congrArg (splitOn separator) same
  rw [List.splitOn_append_cons_self_of_not_mem absent,
    List.splitOn_append_cons_self_of_not_mem absentToo] at parts
  obtain ⟨first, later⟩ := List.cons.inj parts
  refine ⟨first, ?_⟩
  rw [← @List.intercalate_splitOn _ back, ← @List.intercalate_splitOn _ backToo, later]

end Provision.Text
