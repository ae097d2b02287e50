/-!
# Text as bytes

Names, values and paths reach the operating system as byte strings, most of which are texts in
UTF-8. `decode?` reads exactly what `encode` writes; `decodeLossy` shows any byte string, with one
replacement character for every longest run of bytes that begins a character and does not end it.
-/

namespace Provision

abbrev Bytes := List UInt8

namespace Utf8

def encode (text : String) : Bytes :=
  text.toByteArray.data.toList

def decode? (bytes : Bytes) : Option String :=
  String.fromUTF8? ⟨bytes.toArray⟩

@[simp] theorem decode?_encode (text : String) : decode? (encode text) = some text := by
  have valid : text.toByteArray.IsValidUTF8 := text.isValidUTF8
  simp [decode?, encode, String.fromUTF8?, valid, String.fromUTF8]

theorem eq_encode_of_decode? {bytes : Bytes} {text : String} (read : decode? bytes = some text) :
    bytes = encode text := by
  unfold decode? String.fromUTF8? at read
  split at read
  · have same := Option.some.inj read
    rw [← same]
    simp [encode, String.fromUTF8]
  · simp at read

theorem encode_injective {left right : String} (same : encode left = encode right) :
    left = right := by
  have read := decode?_encode left
  rw [same, decode?_encode] at read
  exact (Option.some.inj read).symm

@[simp] theorem encode_append (left right : String) :
    encode (left ++ right) = encode left ++ encode right := by
  simp [encode]

/-- A character that has begun: its bits so far, how many bytes are missing, and between which
bounds the next one lies. -/
structure Begun where
  value : Nat
  missing : Nat
  lower : UInt8
  upper : UInt8

/-- What a byte begins: a finished character, an unfinished one, or nothing valid. -/
def start (byte : UInt8) : List Char × Option Begun :=
  if byte < 0x80 then ([Char.ofNat byte.toNat], none)
  else if byte < 0xC2 then (['\uFFFD'], none)
  else if byte < 0xE0 then ([], some ⟨byte.toNat - 0xC0, 1, 0x80, 0xBF⟩)
  else if byte < 0xF0 then
    ([], some ⟨byte.toNat - 0xE0, 2, if byte = 0xE0 then 0xA0 else 0x80,
      if byte = 0xED then 0x9F else 0xBF⟩)
  else if byte < 0xF5 then
    ([], some ⟨byte.toNat - 0xF0, 3, if byte = 0xF0 then 0x90 else 0x80,
      if byte = 0xF4 then 0x8F else 0xBF⟩)
  else (['\uFFFD'], none)

def continueWith (begun : Option Begun) (byte : UInt8) : List Char × Option Begun :=
  match begun with
  | none => start byte
  | some character =>
      if character.lower ≤ byte ∧ byte ≤ character.upper then
        let value := character.value * 64 + (byte.toNat - 0x80)
        if character.missing ≤ 1 then ([Char.ofNat value], none)
        else ([], some ⟨value, character.missing - 1, 0x80, 0xBF⟩)
      else
        let (characters, next) := start byte
        ('\uFFFD' :: characters, next)

def lossyFrom (begun : Option Begun) : Bytes → List Char
  | [] => if begun.isSome then ['\uFFFD'] else []
  | byte :: rest =>
      let (characters, next) := continueWith begun byte
      characters ++ lossyFrom next rest

def decodeLossy (bytes : Bytes) : String :=
  (decode? bytes).getD (String.ofList (lossyFrom none bytes))

end Utf8

end Provision
