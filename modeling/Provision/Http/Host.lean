import Provision.Http.Domain.Label
import Provision.Http.Percent

/-!
# Hosts

The host of an address is a domain, an address of version 4 or 6 of the protocol, or, where nothing is
known about the kind of address, a text. `Host.text` is the one way in which a host is written.
-/

namespace Provision.Http

/-- The host of an address. The pieces of an address of version 6 are eight. -/
inductive Host where
  | domain (name : List Char)
  | version4 (address : Nat)
  | version6 (pieces : List Nat)
  | unknown (name : List Char)
  deriving DecidableEq, Repr

namespace Host

open Text (isDigit isHexDigit numberOf)

/-! ## Addresses of version 4 -/

/-- The number that a part stands for: hexadecimal after `0x`, octal after a zero, or decimal. -/
def partNumber? (part : List Char) : Option Nat :=
  let based (base : Nat) (accepts : Char → Bool) (digits : List Char) : Option Nat :=
    if digits.all accepts then some (numberOf base digits) else none
  match part with
  | [] => none
  | '0' :: 'x' :: digits => based 16 isHexDigit digits
  | '0' :: 'X' :: digits => based 16 isHexDigit digits
  | '0' :: digit :: digits => based 8 (fun c => '0' ≤ c && c ≤ '7') (digit :: digits)
  | digits => based 10 isDigit digits

def partsOf (name : List Char) : List (List Char) :=
  let parts := Text.splitOn '.' name
  if parts.length ≠ 1 ∧ parts.getLast? = some [] then parts.dropLast else parts

def endsInNumber (name : List Char) : Bool :=
  match (partsOf name).getLast? with
  | none => false
  | some last => (last ≠ [] && last.all isDigit) || (last.head? = some '0' &&
      (partNumber? last).isSome)

/-- The address that numbers stand for: each but the last is a byte, and the last fills the rest. -/
def ofNumbers? (numbers : List Nat) : Option Nat :=
  match numbers.getLast? with
  | none => none
  | some last =>
      let front := numbers.dropLast
      if 4 < numbers.length ∨ front.any (255 < ·) ∨ Nat.pow 256 (5 - numbers.length) ≤ last then none
      else
        some (front.zipIdx.foldl (fun sum entry => sum + entry.1 * Nat.pow 256 (3 - entry.2)) last)

def readVersion4 (name : List Char) : Option Host :=
  match (partsOf name).mapM partNumber? with
  | some numbers => (ofNumbers? numbers).map .version4
  | none => none

def version4Text (address : Nat) : List Char :=
  Text.joined '.' ([3, 2, 1, 0].map fun place => (toString (address / Nat.pow 256 place % 256)).toList)

/-! ## Addresses of version 6 -/

def readPiece? (part : List Char) : Option Nat :=
  if part = [] ∨ 4 < part.length ∨ !part.all isHexDigit then none else some (numberOf 16 part)

def readTail? (part : List Char) : Option (List Nat) :=
  let number? (digits : List Char) : Option Nat :=
    if digits = [] ∨ 3 < digits.length ∨ !digits.all isDigit ∨
        (digits.head? = some '0' ∧ 1 < digits.length) ∨ 255 < numberOf 10 digits then none
    else some (numberOf 10 digits)
  match (Text.splitOn '.' part).mapM number? with
  | some [a, b, c, d] => some [a * 256 + b, c * 256 + d]
  | _ => none

def readPieces? : List (List Char) → Option (List Nat)
  | [] => some []
  | [last] =>
      if last.contains '.' then readTail? last else (readPiece? last).map fun piece => [piece]
  | part :: rest => do
      let piece ← readPiece? part
      let pieces ← readPieces? rest
      some (piece :: pieces)

def colonParts (chars : List Char) : List (List Char) :=
  if chars = [] then [] else Text.splitOn ':' chars

def cutAtGap : List Char → List Char × Option (List Char)
  | ':' :: ':' :: rest => ([], some rest)
  | c :: rest =>
      let (before, after) := cutAtGap rest
      (c :: before, after)
  | [] => ([], none)

/-- Reads an address of version 6, in which a double colon stands for at least one piece of zero. -/
def readVersion6 (chars : List Char) : Option Host :=
  match cutAtGap chars with
  | (whole, none) =>
      match readPieces? (colonParts whole) with
      | some pieces => if pieces.length = 8 then some (.version6 pieces) else none
      | none => none
  | (before, some after) =>
      if before.contains '.' then none
      else
        match readPieces? (colonParts before), readPieces? (colonParts after) with
        | some front, some back =>
            let missing := 8 - (front.length + back.length)
            if missing = 0 then none
            else some (.version6 (front ++ List.replicate missing 0 ++ back))
        | _, _ => none

def zeroRuns : List Nat → List Nat
  | [] => []
  | piece :: rest =>
      let runs := zeroRuns rest
      (if piece = 0 then runs.headD 0 + 1 else 0) :: runs

/-- The pieces of an address of version 6; the first of the longest runs of two or more zeros is left
out. -/
def version6Text (pieces : List Nat) : List Char :=
  let written (group : List Nat) : List Char :=
    Text.joined ':' (group.map fun piece => (Text.hexadecimal piece).toList)
  let runs := zeroRuns pieces
  let longest := runs.foldl max 0
  if longest < 2 then written pieces
  else
    let start := runs.findIdx (· = longest)
    written (pieces.take start) ++ "::".toList ++ written (pieces.drop (start + longest))

/-! ## Domains -/

def isForbidden (c : Char) : Bool :=
  c.toNat ≤ 0x20 || c.toNat = 0x7F ||
    ['#', '%', '/', ':', '<', '>', '?', '@', '[', '\\', ']', '^', '|'].contains c

def isForbiddenAnywhere (c : Char) : Bool :=
  [' ', '\x00', '\t', '\n', '\r', '#', '/', ':', '<', '>', '?', '@', '[', '\\', ']', '^', '|'].contains c

def readDomain (chars : List Char) : Option Host :=
  match Domain.toAscii? (Utf8.decodeLossy (Percent.decode chars)).toList with
  | none => none
  | some name =>
      if name = [] ∨ name.any isForbidden then none
      else if endsInNumber name then readVersion4 name
      else some (.domain name)

def readBracketed? : List Char → Option (Option Host)
  | '[' :: rest =>
      if rest.getLast? = some ']' then some (readVersion6 rest.dropLast) else some none
  | _ => none

def readKnown (chars : List Char) : Option Host :=
  (readBracketed? chars).getD (readDomain chars)

def readUnknown (chars : List Char) : Option Host :=
  (readBracketed? chars).getD <|
    if chars.any isForbiddenAnywhere then none
    else some (.unknown (Percent.encode Percent.isControl chars))

def text : Host → List Char
  | .domain name => name
  | .version4 address => version4Text address
  | .version6 pieces => '[' :: version6Text pieces ++ [']']
  | .unknown name => name

end Host

end Provision.Http
