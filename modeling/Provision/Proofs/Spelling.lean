import Provision.Toml.Text

/-!
# Spellings of a text

A basic string may be written in many ways, since most characters may be escaped and some have several
escapes. Whichever are taken, what is read up to the closing quote is the text that was written.
`basicEscaped` takes one of them for every text.
-/

namespace Provision.Toml

open Text (hexDigit? isHexDigit numberOf upperHexDigit)

/-- The ways to write a character in a basic string: it stands for itself, or what follows a backslash
stands for it, which is a letter, or a letter and the digits of its number. -/
inductive Spells (c : Char) : List Char → Prop where
  | itself (plain : isPlain c = true) (notQuote : c ≠ '"') (notBackslash : c ≠ '\\') : Spells c [c]
  | letter {letter : Char} (stands : escape? letter = some (.character c)) :
      Spells c ['\\', letter]
  | number {letter : Char} {digits : List Char}
      (announced : escape? letter = some (.number digits.length))
      (hexadecimal : ∀ digit ∈ digits, isHexDigit digit = true)
      (number : numberOf 16 digits = c.toNat) : Spells c ('\\' :: letter :: digits)

/-- The ways to write a text in a basic string, which are those of its characters. -/
inductive Spelled : List Char → List Char → Prop where
  | nil : Spelled [] []
  | cons {c : Char} {content first rest : List Char} (head : Spells c first)
      (tail : Spelled content rest) : Spelled (c :: content) (first ++ rest)

/-! ## Reading -/

theorem scalar_of_char (c : Char) : scalar? c.toNat = some c := by
  have valid : c.toNat.isValidChar := c.valid
  rw [scalar?, dif_pos valid]
  rfl

theorem escape_has_digits {letter : Char} {digits : Nat}
    (announced : escape? letter = some (.number digits)) : digits ≠ 0 := by
  unfold escape? at announced
  split at announced <;> cases announced <;> decide

/-- The number of a character is read from its digits, of which some may have been read already. -/
theorem read_basic_from_digits {c : Char} {digits : List Char} (nonempty : digits ≠ [])
    (hexadecimal : ∀ digit ∈ digits, isHexDigit digit = true) {value : Nat}
    (number : digits.foldl (fun value digit => value * 16 + (hexDigit? digit).getD 0) value =
      c.toNat) (rest : List Char) :
    readBasicFrom (.inNumber digits.length value) (digits ++ rest) =
      (readBasicFrom .between rest).map fun read => (c :: read.1, read.2) := by
  induction digits generalizing value with
  | nil => exact absurd rfl nonempty
  | cons digit digits ih =>
      obtain ⟨amount, means⟩ := Option.isSome_iff_exists.1 (hexadecimal digit List.mem_cons_self)
      rw [List.foldl_cons, means, Option.getD_some] at number
      rw [List.cons_append, List.length_cons]
      cases digits with
      | nil =>
          have last : value * 16 + amount = c.toNat := number
          simp [readBasicFrom, means, last, scalar_of_char]
      | cons next digits =>
          have more : ¬ (next :: digits).length + 1 ≤ 1 := by simp
          rw [readBasicFrom, means]
          simp only [more, if_false, Nat.add_sub_cancel]
          exact ih (List.cons_ne_nil _ _)
            (fun digit inside => hexadecimal digit (List.mem_cons_of_mem _ inside)) number

theorem read_basic_of_spells {c : Char} {written : List Char} (spells : Spells c written)
    (rest : List Char) :
    readBasic (written ++ rest) = (readBasic rest).map fun read => (c :: read.1, read.2) := by
  unfold readBasic
  cases spells with
  | itself plain notQuote notBackslash => simp [readBasicFrom, plain, notQuote, notBackslash]
  | letter stands => simp [readBasicFrom, stands]
  | @number letter digits announced hexadecimal number =>
      have nonempty : digits ≠ [] := fun none =>
        escape_has_digits announced (List.length_eq_zero_iff.2 none)
      simp only [List.cons_append, readBasicFrom, announced]
      exact read_basic_from_digits nonempty hexadecimal number rest

/-- A text is read back from every way to write it, up to the closing quote. -/
theorem read_basic_of_spelled {content written : List Char} (spelled : Spelled content written)
    (rest : List Char) : readBasic (written ++ '"' :: rest) = some (content, rest) := by
  induction spelled with
  | nil => rfl
  | cons head _ ih =>
      rw [List.append_assoc, read_basic_of_spells head, ih]
      rfl

theorem Spelled.head_ne_quote {content written : List Char} (spelled : Spelled content written) :
    written.head? ≠ some '"' := by
  cases spelled with
  | nil => simp
  | cons head _ =>
      cases head with
      | itself _ notQuote _ => simpa using notQuote
      | letter _ => simp
      | number _ _ _ => simp

/-- A basic string is taken for no other kind of string, not even where the text is empty, if only no
third quote follows. -/
theorem read_text_of_spelled {content written : List Char} (spelled : Spelled content written)
    (rest : List Char) :
    readText? ('"' :: (written ++ '"' :: '\n' :: rest)) = some (content, '\n' :: rest) := by
  have single : readText? ('"' :: (written ++ '"' :: '\n' :: rest)) =
      readBasic (written ++ '"' :: '\n' :: rest) := by
    have apart := spelled.head_ne_quote
    cases written with
    | nil => rfl -- the two quotes of an empty text, and the line break behind them
    | cons c written =>
        have differs : c ≠ '"' := by simpa using apart
        rw [List.cons_append]
        unfold readText?
        split <;> simp_all
  rw [single, read_basic_of_spelled spelled]

/-! ## Writing -/

theorem hex_digit_upper_hex_digit {value : Nat} (small : value < 16) :
    hexDigit? (upperHexDigit value) = some value := by
  have all : ∀ value : Fin 16, hexDigit? (upperHexDigit value) = some value.val := by decide
  exact all ⟨value, small⟩

theorem spells_number {c : Char} (small : c.toNat < 0x100) :
    Spells c ['\\', 'u', '0', '0', upperHexDigit (c.toNat / 16), upperHexDigit (c.toNat % 16)] := by
  have zero : hexDigit? '0' = some 0 := rfl
  have high := hex_digit_upper_hex_digit (by omega : c.toNat / 16 < 16)
  have low := hex_digit_upper_hex_digit (by omega : c.toNat % 16 < 16)
  refine .number rfl ?_ ?_
  · simp [isHexDigit, zero, high, low]
  · simp only [numberOf, List.foldl_cons, List.foldl_nil, zero, high, low, Option.getD_some]
    omega

theorem spells_basic_escaped_char (c : Char) : Spells c (basicEscapedChar c) := by
  unfold basicEscapedChar
  split
  · next quote =>
      subst quote
      exact .letter rfl
  · next notQuote =>
      split
      · next backslash =>
          subst backslash
          exact .letter rfl
      · next notBackslash =>
          split
          · next control => exact spells_number (by omega)
          · next visible =>
              have plain : isPlain c = true := by
                simp [isPlain]
                omega
              exact .itself plain notQuote notBackslash

theorem spelled_basic_escaped (content : List Char) : Spelled content (basicEscaped content) := by
  induction content with
  | nil => exact .nil
  | cons c content ih => exact .cons (spells_basic_escaped_char c) ih

end Provision.Toml
