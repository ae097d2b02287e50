import Mathlib.Data.String.Basic
import Provision.Dictionary
import Provision.Proofs.Separator

/-!
# The order of texts and of their bytes

Texts are ordered by the numbers of their characters. Their encodings have the same order byte by byte:
the first byte of a character tells how many there are, and more bytes stand for greater numbers. So the
keys of a dictionary ascend in the order of their bytes.
-/

namespace Provision.Utf8

/-- A byte that carries the last bits of a number above a mark. -/
theorem to_nat_marked (bits mark : Nat) (fits : bits + mark ≤ 256) (some : 0 < bits) (number : Nat) :
    (UInt8.ofNat (number % bits + mark)).toNat = number % bits + mark := by
  have below := Nat.mod_lt number some
  rw [UInt8.toNat_ofNat', Nat.mod_eq_of_lt (by omega)]

/-- Of two numbers the lesser has the lesser front, or with the same front the lesser last digit. -/
theorem front_or_last {small large : Nat} (below : small < large) :
    small / 64 < large / 64 ∨ small / 64 = large / 64 ∧ small % 64 < large % 64 := by
  omega

/-- The encodings of two characters decide the order of all that begins with them. -/
theorem encode_char_lt {lesser greater : Char} (below : lesser < greater) (left right : Bytes) :
    String.utf8EncodeChar lesser ++ left < String.utf8EncodeChar greater ++ right := by
  have numbers : lesser.val.toNat < greater.val.toNat := UInt32.lt_iff_toNat_lt.1 below
  have limit : greater.val.toNat < 0x110000 := by
    have valid := greater.valid
    unfold UInt32.isValidChar Nat.isValidChar at valid
    omega
  unfold String.utf8EncodeChar
  generalize lesser.val.toNat = small at numbers
  generalize greater.val.toNat = large at numbers limit
  dsimp only
  have last := to_nat_marked 64 128 (by decide) (by decide)
  have ofTwo := to_nat_marked 32 192 (by decide) (by decide)
  have ofThree := to_nat_marked 16 224 (by decide) (by decide)
  have ofFour := to_nat_marked 8 240 (by decide) (by decide)
  have byTwo (number : Nat) : number / 4096 = number / 64 / 64 := by omega
  have byThree (number : Nat) : number / 262144 = number / 64 / 64 / 64 := by omega
  -- Encodings of one length are compared digit by digit, from the front.
  have second := front_or_last numbers
  have third := @front_or_last (small / 64) (large / 64)
  have fourth := @front_or_last (small / 64 / 64) (large / 64 / 64)
  repeat' split
  all_goals
    simp only [List.cons_append, List.nil_append, List.cons_lt_cons_iff, UInt8.lt_iff_toNat_lt,
      ← UInt8.toNat_inj, UInt8.toNat_ofNat', last, ofTwo, ofThree, ofFour, byTwo, byThree]
    clear last ofTwo ofThree ofFour byTwo byThree
    omega

theorem encode_char_ne_nil (c : Char) : String.utf8EncodeChar c ≠ [] := by
  unfold String.utf8EncodeChar
  dsimp only
  repeat' split
  all_goals exact List.cons_ne_nil _ _

theorem encode_chars_lt {left right : List Char} (below : left < right) :
    left.flatMap String.utf8EncodeChar < right.flatMap String.utf8EncodeChar := by
  induction below with
  | @nil c rest =>
      obtain ⟨byte, bytes, encoded⟩ := List.exists_cons_of_ne_nil (encode_char_ne_nil c)
      rw [List.flatMap_cons, encoded]
      exact .nil
  | cons _ ih => exact List.Lex.append_left _ ih _
  | rel lesser => exact encode_char_lt lesser _ _

/-- Texts are in the order of their bytes. -/
theorem encode_lt_iff {left right : String} : encode left < encode right ↔ left < right := by
  have encoded (text : String) : encode text = text.toList.flatMap String.utf8EncodeChar := by
    rw [← encode_of_list, String.ofList_toList]
  have forward {lesser greater : String} (below : lesser < greater) :
      encode lesser < encode greater := by
    rw [encoded, encoded]
    exact encode_chars_lt (String.lt_iff_toList_lt.1 below)
  refine ⟨fun below => ?_, forward⟩
  rcases lt_trichotomy left right with lesser | same | greater
  · exact lesser
  · rw [same] at below
    exact absurd below (List.lt_irrefl _)
  · exact absurd below (List.lt_asymm (forward greater))

end Provision.Utf8

namespace Provision.Dictionary

/-- The keys of a dictionary ascend in the order of their bytes. -/
theorem keys_ascend {ν : Type} (dictionary : Dictionary String ν) :
    dictionary.keys.Pairwise fun earlier later => Utf8.encode earlier < Utf8.encode later := by
  refine List.pairwise_map.2 (dictionary.ascending.imp fun before => ?_)
  exact Utf8.encode_lt_iff.2 (compareOfLessAndEq_eq_lt.1 before)

end Provision.Dictionary
