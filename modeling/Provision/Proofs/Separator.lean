import Provision.Text.Utf8

/-!
# Separators in the bytes of a text

A byte below 128 stands for itself in a text and never inside another character. So what follows such a
byte in a text is the bytes of a text again, and bytes that are no text follow it nowhere.
-/

namespace Provision.Utf8

/-- The bytes of a text, character by character. -/
theorem encode_of_list (chars : List Char) :
    encode (String.ofList chars) = chars.flatMap String.utf8EncodeChar := by
  rw [encode, String.toByteArray_ofList]
  simp [List.utf8Encode]

/-- The bytes of a character that is not ASCII are all high. -/
theorem high_of_mem_encode_char {c : Char} (long : 127 < c.val.toNat) {byte : UInt8}
    (inside : byte ∈ String.utf8EncodeChar c) : 128 ≤ byte.toNat := by
  unfold String.utf8EncodeChar at inside
  generalize c.val.toNat = value at long inside
  dsimp only at inside
  rw [if_neg (by omega)] at inside
  split at inside
  · simp only [List.mem_cons, List.not_mem_nil, or_false] at inside
    rcases inside with rfl | rfl <;> rw [UInt8.toNat_ofNat'] <;> omega
  · split at inside
    · simp only [List.mem_cons, List.not_mem_nil, or_false] at inside
      rcases inside with rfl | rfl | rfl <;> rw [UInt8.toNat_ofNat'] <;> omega
    · simp only [List.mem_cons, List.not_mem_nil, or_false] at inside
      rcases inside with rfl | rfl | rfl | rfl <;> rw [UInt8.toNat_ofNat'] <;> omega

/-- An ASCII byte stands only in the encoding of its own character, and is all of it. -/
theorem encode_char_of_mem {byte : UInt8} (ascii : byte.toNat < 128) {c : Char}
    (inside : byte ∈ String.utf8EncodeChar c) : String.utf8EncodeChar c = [byte] := by
  by_cases long : 127 < c.val.toNat
  · have high := high_of_mem_encode_char long inside
    omega
  · have single : String.utf8EncodeChar c = [UInt8.ofNat c.val.toNat] := by
      unfold String.utf8EncodeChar
      exact if_pos (Nat.le_of_not_lt long)
    rw [single] at inside ⊢
    rw [List.mem_singleton.1 inside]

theorem encode_char_of_ascii {c : Char} (ascii : c.toNat < 128) :
    String.utf8EncodeChar c = [UInt8.ofNat c.toNat] := by
  unfold String.utf8EncodeChar
  exact if_pos (Nat.le_of_lt_succ ascii)

/-- An ASCII character is in a text exactly if its byte is among the bytes of the text. -/
theorem mem_encode_iff {c : Char} (ascii : c.toNat < 128) {text : String} :
    UInt8.ofNat c.toNat ∈ encode text ↔ c ∈ text.toList := by
  rw [← String.ofList_toList (s := text), encode_of_list, String.toList_ofList, List.mem_flatMap]
  constructor
  · rintro ⟨other, inside, byte⟩
    have low : (UInt8.ofNat c.toNat).toNat < 128 := by
      rw [UInt8.toNat_ofNat']
      omega
    have single := encode_char_of_mem low byte
    have short : other.toNat < 128 := by
      apply Nat.lt_of_not_le
      intro long
      have high := high_of_mem_encode_char long byte
      omega
    rw [encode_char_of_ascii short] at single
    have codes := congrArg UInt8.toNat (List.cons.inj single).1
    rw [UInt8.toNat_ofNat', UInt8.toNat_ofNat'] at codes
    have same : other = c := Char.toNat_inj.1 (by omega)
    exact same ▸ inside
  · intro inside
    refine ⟨c, inside, ?_⟩
    rw [encode_char_of_ascii ascii]
    exact List.mem_cons_self

theorem chars_after_separator {byte : UInt8} (ascii : byte.toNat < 128) {chars : List Char}
    {front back : Bytes} (split : chars.flatMap String.utf8EncodeChar = front ++ byte :: back) :
    ∃ later : List Char, back = later.flatMap String.utf8EncodeChar := by
  induction chars generalizing front with
  | nil => simp at split
  | cons c rest ih =>
      rw [List.flatMap_cons] at split
      rcases List.append_eq_append_iff.1 split with ⟨middle, _, later⟩ | ⟨middle, here, later⟩
      · exact ih later
      · cases middle with
        | nil =>
            have split : rest.flatMap String.utf8EncodeChar = [] ++ byte :: back := later.symm
            exact ih split
        | cons head middle =>
            -- The byte stands within the first character, so it is all of it.
            obtain ⟨same, rest⟩ := List.cons.inj later
            have single : String.utf8EncodeChar c = [byte] := by
              apply encode_char_of_mem ascii
              rw [here, same]
              simp
            have empty : middle = [] := by
              rw [single] at here
              have lengths := congrArg List.length here
              simp only [List.length_append, List.length_cons, List.length_nil] at lengths
              exact List.eq_nil_of_length_eq_zero (by omega)
            rw [empty] at rest
            exact ⟨_, rest⟩

/-- What follows an ASCII byte in a text is a text. -/
theorem text_after_separator {byte : UInt8} (ascii : byte.toNat < 128) {text : String}
    {front back : Bytes} (split : encode text = front ++ byte :: back) :
    ∃ later, back = encode later := by
  rw [← String.ofList_toList (s := text), encode_of_list] at split
  obtain ⟨later, same⟩ := chars_after_separator ascii split
  exact ⟨String.ofList later, same.trans (encode_of_list later).symm⟩

end Provision.Utf8
