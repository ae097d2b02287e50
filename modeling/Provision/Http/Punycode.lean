/-!
# Labels of a domain in ASCII

A label with other characters is written as its ASCII characters and, behind a hyphen, a code for the
places of the others: in ascending order, the distances between them as numbers of variable length.
-/

namespace Provision.Http.Punycode

def digit (value : Nat) : Char :=
  if value < 26 then Char.ofNat (0x61 + value) else Char.ofNat (0x30 + (value - 26))

/-- The threshold of a place: the digits below it end a number. -/
def threshold (place bias : Nat) : Nat :=
  min 26 (max 1 (place - bias))

theorem threshold_pos (place bias : Nat) : 0 < threshold place bias := by
  unfold threshold
  omega

def digits (bias place value : Nat) : List Char :=
  let least := threshold place bias
  if value < least then [digit value]
  else
    digit (least + (value - least) % (36 - least)) ::
      digits bias (place + 36) ((value - least) / (36 - least))
termination_by value
decreasing_by
  have positive := threshold_pos place bias
  have shrinks := Nat.div_le_self (value - threshold place bias) (36 - threshold place bias)
  omega

def shrink (distance places : Nat) : Nat × Nat :=
  if 455 < distance then shrink (distance / 35) (places + 36) else (distance, places)
termination_by distance

def adapt (distance count : Nat) (isFirst : Bool) : Nat :=
  let scaled := if isFirst then distance / 700 else distance / 2
  let (rest, places) := shrink (scaled + scaled / count) 0
  places + 36 * rest / (rest + 38)

structure Progress where
  code : List Char := []
  distance : Nat := 0
  bias : Nat := 72
  handled : Nat

def pass (plain point : Nat) (progress : Progress) (c : Char) : Progress :=
  if c.toNat < point then { progress with distance := progress.distance + 1 }
  else if c.toNat = point then
    { code := progress.code ++ digits progress.bias 36 progress.distance
      distance := 0
      bias := adapt progress.distance (progress.handled + 1) (progress.handled = plain)
      handled := progress.handled + 1 }
  else progress

def codePoints (label : List Char) (plain : Nat) : Nat → List Nat → Progress → List Char
  | _, [], progress => progress.code
  | next, point :: rest, progress =>
      let jumped :=
        { progress with
          distance := progress.distance + (point - next) * (progress.handled + 1) }
      let passed := label.foldl (pass plain point) jumped
      codePoints label plain (point + 1) rest { passed with distance := passed.distance + 1 }

def encode (label : List Char) : List Char :=
  let plain := label.filter fun c => c.toNat < 0x80
  let points := (label.filter fun c => 0x80 ≤ c.toNat).map Char.toNat
  if points = [] then label
  else
    let ascending := points.eraseDups.mergeSort
    "xn--".toList ++ plain ++ (if plain = [] then [] else ['-']) ++
      codePoints label plain.length 0x80 ascending { handled := plain.length }

/-! ## Reading -/

def digitValue? (c : Char) : Option Nat :=
  if 'a' ≤ c ∧ c ≤ 'z' then some (c.toNat - 0x61)
  else if 'A' ≤ c ∧ c ≤ 'Z' then some (c.toNat - 0x41)
  else if '0' ≤ c ∧ c ≤ '9' then some (c.toNat - 0x30 + 26)
  else none

def numberLimit : Nat := Nat.pow 2 32

/-- A code that is being read: the label so far, the last code point, the place of the next character
and where its distance began, and the weight and the place of the next digit. -/
structure Decoding where
  label : List Char
  point : Nat := 0x80
  place : Nat := 0
  start : Nat := 0
  weight : Nat := 1
  digitPlace : Nat := 36
  bias : Nat := 72

def isScalar (point : Nat) : Bool :=
  point < 0xD800 || (0xE000 ≤ point && point < 0x110000)

def Decoding.insert (decoding : Decoding) : Option Decoding :=
  let count := decoding.label.length + 1
  let point := decoding.point + decoding.place / count
  let place := decoding.place % count
  if isScalar point then
    some
      { label := decoding.label.take place ++ Char.ofNat point :: decoding.label.drop place
        point
        place := place + 1
        start := place + 1
        bias := adapt (decoding.place - decoding.start) count (decoding.start = 0) }
  else none

def Decoding.read (decoding : Decoding) (c : Char) : Option Decoding :=
  match digitValue? c with
  | none => none
  | some value =>
      let place := decoding.place + value * decoding.weight
      let least := threshold decoding.digitPlace decoding.bias
      if numberLimit ≤ place then none
      else if value < least then Decoding.insert { decoding with place }
      else
        let weight := decoding.weight * (36 - least)
        if numberLimit ≤ weight then none
        else some { decoding with place, weight, digitPlace := decoding.digitPlace + 36 }

def Decoding.isDone (decoding : Decoding) : Bool :=
  decoding.digitPlace = 36

/-- What stands before and behind the last hyphen. Without one everything stands behind it, and so it
does if nothing stands before it. -/
def parts (code : List Char) : List Char × List Char :=
  let behind := (code.reverse.takeWhile (· ≠ '-')).reverse
  let before := code.take (code.length - behind.length - 1)
  if before = [] then ([], code) else (before, behind)

def decode? (code : List Char) : Option (List Char) :=
  let (plain, digits) := parts code
  match digits.foldlM Decoding.read { label := plain } with
  | some decoding => if decoding.isDone then some decoding.label else none
  | none => none

end Provision.Http.Punycode
