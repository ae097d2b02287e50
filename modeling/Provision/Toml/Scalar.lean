import Provision.Toml.Value
import Provision.Toml.Text

/-!
# Numbers, dates and truth values of a document

A number or date is read as the first of these forms that fits: a date or time, a float, an integer.
Underscores may stand between digits. Integers have 64 bits; a float too large for its format is
refused when it is positive.
-/

namespace Provision.Toml

open Text (hexDigit? isDigit isHexDigit numberOf)

def takeDigits (accepts : Char → Bool) : List Char → List Char × List Char
  | '_' :: rest => ([], '_' :: rest)
  | c :: '_' :: next :: rest =>
      if accepts c then
        if accepts next then
          let (digits, after) := takeDigits accepts (next :: rest)
          (c :: digits, after)
        else ([c], '_' :: next :: rest)
      else ([], c :: '_' :: next :: rest)
  | c :: rest =>
      if accepts c then
        let (digits, after) := takeDigits accepts rest
        (c :: digits, after)
      else ([], c :: rest)
  | [] => ([], [])

def readDigits (accepts : Char → Bool) (chars : List Char) : Option (List Char × List Char) :=
  let (digits, rest) := takeDigits accepts chars
  if digits.isEmpty then none else some (digits, rest)

/-- Reads a sign, which may be absent. The answer is whether it is a minus. -/
def readSign : List Char → Bool × List Char
  | '+' :: rest => (false, rest)
  | '-' :: rest => (true, rest)
  | chars => (false, chars)

def readWhole : List Char → Option (List Char × List Char)
  | '0' :: rest => some (['0'], rest)
  | chars => readDigits isDigit chars

def readFraction : List Char → Option (List Char × List Char)
  | '.' :: rest => readDigits isDigit rest
  | _ => none

def readExponent : List Char → Option (Int × List Char)
  | c :: rest =>
      if c = 'e' ∨ c = 'E' then
        let (negative, rest) := readSign rest
        (readDigits isDigit rest).map fun (digits, after) =>
          let size : Int := numberOf 10 digits
          (if negative then -size else size, after)
      else none
  | [] => none

/-- Reads a float that is written in digits: a fraction, an exponent or both follow the whole part. -/
def readDecimalFloat (chars : List Char) : Option (Binary64 × List Char) := do
  let (negative, rest) := readSign chars
  let (whole, rest) ← readWhole rest
  match readFraction rest with
  | some (fraction, rest) =>
      let (exponent, rest) := (readExponent rest).getD (0, rest)
      some (Binary64.ofDecimal negative (numberOf 10 (whole ++ fraction))
        (exponent - fraction.length), rest)
  | none =>
      let (exponent, rest) ← readExponent rest
      some (Binary64.ofDecimal negative (numberOf 10 whole) exponent, rest)

def readNamedFloat (chars : List Char) : Option (Binary64 × List Char) :=
  match readSign chars with
  | (negative, 'i' :: 'n' :: 'f' :: rest) => some (.infinite negative, rest)
  | (_, 'n' :: 'a' :: 'n' :: rest) => some (.notANumber, rest)
  | _ => none

/-- Reads a float. Digits that stand for positive infinity are refused. -/
def readFloat (chars : List Char) : Option (Value × List Char) :=
  match readDecimalFloat chars with
  | some (.infinite false, _) => none
  | some (number, rest) => some (.float number, rest)
  | none => (readNamedFloat chars).map fun (number, rest) => (.float number, rest)

def readBased (base : Nat) (accepts : Char → Bool) (chars : List Char) :
    Option (Value × List Char) := do
  let (digits, rest) ← readDigits accepts chars
  let number := numberOf base digits
  if number < Nat.pow 2 63 then some (.integer number, rest) else none

def readInteger : List Char → Option (Value × List Char)
  | '0' :: 'x' :: rest => readBased 16 isHexDigit rest
  | '0' :: 'o' :: rest => readBased 8 (fun c => '0' ≤ c && c ≤ '7') rest
  | '0' :: 'b' :: rest => readBased 2 (fun c => c = '0' || c = '1') rest
  | chars => do
      let (negative, rest) := readSign chars
      let (digits, rest) ← readWhole rest
      let size := numberOf 10 digits
      if negative then
        if size ≤ Nat.pow 2 63 then some (.integer (-(size : Int)), rest) else none
      else if size < Nat.pow 2 63 then some (.integer size, rest)
      else none

def readField (digits lower upper : Nat) (chars : List Char) : Option (Nat × List Char) :=
  let field := chars.take digits
  let number := numberOf 10 field
  if field.length = digits ∧ field.all isDigit ∧ lower ≤ number ∧ number ≤ upper then
    some (number, chars.drop digits)
  else none

def expect (c : Char) : List Char → Option (List Char)
  | first :: rest => if first = c then some rest else none
  | [] => none

def daysOf (year month : Nat) : Nat :=
  if month = 2 then
    if year % 4 = 0 ∧ (year % 100 ≠ 0 ∨ year % 400 = 0) then 29 else 28
  else if month = 4 ∨ month = 6 ∨ month = 9 ∨ month = 11 then 30
  else 31

def readDay (chars : List Char) : Option (List Char) := do
  let (year, rest) ← readField 4 0 9999 chars
  let (month, rest) ← readField 2 1 12 (← expect '-' rest)
  let (_, rest) ← readField 2 1 (daysOf year month) (← expect '-' rest)
  some rest

/-- Reads a time of day; its second may be a leap second and may have a fraction. -/
def readTime (chars : List Char) : Option (List Char) := do
  let (_, rest) ← readField 2 0 23 chars
  let (_, rest) ← readField 2 0 59 (← expect ':' rest)
  let (_, rest) ← readField 2 0 60 (← expect ':' rest)
  match rest with
  | '.' :: fraction =>
      let digits := fraction.takeWhile isDigit
      if digits.isEmpty then some rest else some (fraction.dropWhile isDigit)
  | _ => some rest

def skipOffset (chars : List Char) : List Char :=
  let signed (rest : List Char) : Option (List Char) := do
    let (_, rest) ← readField 2 0 23 rest
    let (_, rest) ← readField 2 0 59 (← expect ':' rest)
    some rest
  match chars with
  | 'Z' :: rest => rest
  | 'z' :: rest => rest
  | '+' :: rest => (signed rest).getD chars
  | '-' :: rest => (signed rest).getD chars
  | _ => chars

def readDateTime (chars : List Char) : Option (Value × List Char) :=
  match readDay chars with
  | some rest =>
      match rest with
      | c :: after =>
          if c = 'T' ∨ c = 't' ∨ c = ' ' then
            match readTime after with
            | some next => some (.dateTime, skipOffset next)
            | none => some (.dateTime, rest)
          else some (.dateTime, rest)
      | [] => some (.dateTime, [])
  | none => (readTime chars).map fun rest => (.dateTime, rest)

def readBoolean : List Char → Option (Value × List Char)
  | 't' :: 'r' :: 'u' :: 'e' :: rest => some (.boolean true, rest)
  | 'f' :: 'a' :: 'l' :: 's' :: 'e' :: rest => some (.boolean false, rest)
  | _ => none

def readScalar (chars : List Char) : Option (Value × List Char) :=
  (readDateTime chars).or ((readFloat chars).or ((readInteger chars).or (readBoolean chars)))

end Provision.Toml
