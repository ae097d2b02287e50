import Provision.Http.Body
import Provision.Sha256
import Mathlib.Algebra.GroupWithZero.Nat
import Mathlib.Data.List.Induction

/-!
# Data in pieces

A digest does not depend on how the data was cut: what a hasher keeps after some pieces is what it keeps
after all of their data at once. The full blocks of the first piece are blocks of the whole, and the rest
of it waits in front of the second.
-/

namespace Provision

def assembled (pieces : List ByteArray) : ByteArray :=
  pieces.foldl (fun data piece => data ++ piece) .empty

theorem assembled_snoc (pieces : List ByteArray) (piece : ByteArray) :
    assembled (pieces ++ [piece]) = assembled pieces ++ piece := by
  simp [assembled, List.foldl_append]

theorem size_assembled (pieces : List ByteArray) :
    (assembled pieces).size = (pieces.map ByteArray.size).sum := by
  induction pieces using List.reverseRecOn with
  | nil => rfl
  | append_singleton pieces piece ih =>
      rw [assembled_snoc, ByteArray.size_append, ih, List.map_append, List.sum_append]
      simp

theorem size_assembled_le {earlier pieces : List ByteArray} (before : earlier <+: pieces) :
    (assembled earlier).size ≤ (assembled pieces).size := by
  obtain ⟨later, rfl⟩ := before
  rw [size_assembled, size_assembled, List.map_append, List.sum_append]
  exact Nat.le_add_right _ _

namespace Sha256

variable {left right : ByteArray}

theorem absorb_add (data : ByteArray) (words : Words) (position first second : Nat) :
    absorb data words position (first + second) =
      absorb data (absorb data words position first) (position + blockSize * first) second := by
  induction first generalizing position words with
  | zero => simp [absorb]
  | succ first ih =>
      have next : position + blockSize * (first + 1) = position + blockSize + blockSize * first := by
        rw [Nat.mul_succ]
        omega
      rw [Nat.succ_add, absorb, absorb, ih, next]

/-- Blocks that are the same, wherever they stand, are worked in alike. -/
theorem absorb_congr {blocks here there : Nat} (words : Words)
    (same : ∀ index < blocks,
      left.extract (here + blockSize * index) (here + blockSize * index + blockSize) =
        right.extract (there + blockSize * index) (there + blockSize * index + blockSize)) :
    absorb left words here blocks = absorb right words there blocks := by
  induction blocks generalizing here there words with
  | zero => rfl
  | succ blocks ih =>
      have first := same 0 (Nat.succ_pos blocks)
      simp only [Nat.mul_zero, Nat.add_zero] at first
      rw [absorb, absorb, first]
      apply ih
      intro index inside
      have next := same (index + 1) (Nat.succ_lt_succ inside)
      have shift (start : Nat) :
          start + blockSize * (index + 1) = start + blockSize + blockSize * index := by
        rw [Nat.mul_succ]
        omega
      rw [shift, shift] at next
      exact next

theorem block_inside {index blocks size : Nat} (inside : index < blocks)
    (fits : blockSize * blocks ≤ size) : blockSize * index + blockSize ≤ size := by
  have next : blockSize * (index + 1) ≤ blockSize * blocks := Nat.mul_le_mul_left _ inside
  rw [Nat.mul_succ] at next
  omega

/-- The full blocks of some data stay the same when more data comes behind. -/
theorem absorb_append (words : Words) {blocks : Nat} (fits : blockSize * blocks ≤ left.size) :
    absorb (left ++ right) words 0 blocks = absorb left words 0 blocks := by
  apply absorb_congr
  intro index inside
  have within := block_inside inside fits
  rw [ByteArray.extract_append, Nat.zero_add, Nat.sub_eq_zero_of_le within,
    Nat.sub_eq_zero_of_le (by omega), ByteArray.extract_same, ByteArray.append_empty]

/-- What begins at a position may be worked in as data of its own. -/
theorem absorb_extract (data : ByteArray) (words : Words) {start blocks : Nat}
    (fits : start + blockSize * blocks ≤ data.size) :
    absorb data words start blocks = absorb (data.extract start data.size) words 0 blocks := by
  apply absorb_congr
  intro index inside
  have within := block_inside inside (Nat.le_sub_of_add_le' fits)
  rw [ByteArray.extract_extract, Nat.zero_add, Nat.min_eq_left (by omega), Nat.add_assoc]

/-- Two pieces of data leave a hasher as both at once do. -/
theorem update_update (hasher : Hasher) (first second : ByteArray) :
    (hasher.update first).update second = hasher.update (first ++ second) := by
  obtain ⟨words, pending, length⟩ := hasher
  simp only [Hasher.update, ← ByteArray.append_assoc]
  generalize pending ++ first = waiting
  -- The blocks that are full after the first piece, and what is left over for the second.
  generalize settled : waiting.size / blockSize = blocks
  generalize left : waiting.extract (blocks * blockSize) waiting.size ++ second = rest
  have fits : blocks * blockSize ≤ waiting.size := settled ▸ Nat.div_mul_le_self _ _
  have size : (waiting ++ second).size = blocks * blockSize + rest.size := by
    rw [← left, ByteArray.size_append, ByteArray.size_append, ByteArray.size_extract, Nat.min_self]
    omega
  have same : (waiting ++ second).extract (blocks * blockSize) (waiting ++ second).size = rest := by
    have more : waiting.size ≤ (waiting ++ second).size := by
      rw [ByteArray.size_append]
      exact Nat.le_add_right _ _
    rw [← left, ByteArray.extract_eq_extract_append_extract waiting.size fits more,
      ByteArray.extract_append_size_left, ByteArray.extract_append_eq_right rfl ByteArray.size_append]
  have count : (waiting ++ second).size / blockSize = blocks + rest.size / blockSize := by
    rw [size, Nat.add_comm, Nat.add_mul_div_right _ _ (by decide), Nat.add_comm]
  have worked : absorb (waiting ++ second) words 0 (blocks + rest.size / blockSize) =
      absorb rest (absorb waiting words 0 blocks) 0 (rest.size / blockSize) := by
    have inside : blockSize * (rest.size / blockSize) ≤ rest.size := Nat.mul_div_le _ _
    rw [absorb_add, absorb_append words (by rw [Nat.mul_comm]; exact fits),
      absorb_extract _ _ (by rw [Nat.mul_comm, size]; omega), Nat.zero_add, Nat.mul_comm, same]
  have kept : (waiting ++ second).extract ((blocks + rest.size / blockSize) * blockSize)
        (waiting ++ second).size =
      rest.extract (rest.size / blockSize * blockSize) rest.size := by
    rw [← same, ByteArray.extract_extract, ByteArray.size_extract, Nat.add_mul]
    congr 1
    omega
  rw [count, worked, kept, ByteArray.size_append, Nat.add_assoc]

end Sha256

end Provision
