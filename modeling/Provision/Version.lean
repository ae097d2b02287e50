import Provision.Text.Blank
import Provision.Text.Digits
import Provision.Text.Split

/-!
# Versions

A version has three numbers of 64 bits, and may have identifiers that mark it as a pre-release and
identifiers of its build. Versions are ordered by a key, so that their order is total: numbers first,
then a pre-release below its release, then the build.
-/

namespace Provision

/-- A part of a pre-release or build: a number and how many digits it was written with, or a word. -/
inductive Identifier where
  | number (value width : Nat)
  | word (letters : List Char)
  deriving DecidableEq, Repr

structure Version where
  major : Nat
  minor : Nat
  patch : Nat
  preRelease : List Identifier
  build : List Identifier
  deriving DecidableEq, Repr

/-- Numbers come before words; equal numbers are ordered by how they were written. -/
def Identifier.key : Identifier → List Nat
  | .number value width => [0, value, width]
  | .word letters => 1 :: letters.map Char.toNat

namespace Version

open Text (isDigit numberOf)

/-! ## Reading -/

def isIdentifierChar (c : Char) : Bool :=
  isDigit c || Text.isLetter c || c = '-'

def hasLeadingZero (digits : List Char) : Bool :=
  digits.head? = some '0' && 1 < digits.length

def readNumber (digits : List Char) : Option Nat :=
  if digits.isEmpty || !digits.all isDigit || hasLeadingZero digits then none
  else if numberOf 10 digits < Nat.pow 2 64 then some (numberOf 10 digits)
  else none

def readIdentifier (allowsZeros : Bool) (letters : List Char) : Option Identifier :=
  if letters.isEmpty || !letters.all isIdentifierChar then none
  else if letters.all isDigit then
    if hasLeadingZero letters && !allowsZeros then none
    else some (.number (numberOf 10 letters) letters.length)
  else some (.word letters)

def readIdentifiers (allowsZeros : Bool) (chars : List Char) : Option (List Identifier) :=
  (Text.splitOn '.' chars).mapM (readIdentifier allowsZeros)

def cutAt (mark : Char) (chars : List Char) : List Char × Option (List Char) :=
  match chars.dropWhile (· ≠ mark) with
  | [] => (chars, none)
  | _ :: after => (chars.takeWhile (· ≠ mark), some after)

def ofChars (chars : List Char) : Option Version := do
  let (front, build) := cutAt '+' chars
  let (numbers, preRelease) := cutAt '-' front
  match Text.splitOn '.' numbers with
  | [major, minor, patch] =>
      let major ← readNumber major
      let minor ← readNumber minor
      let patch ← readNumber patch
      let preRelease ← match preRelease with
        | some marked => readIdentifiers false marked
        | none => some []
      let build ← match build with
        | some marked => readIdentifiers true marked
        | none => some []
      some { major, minor, patch, preRelease, build }
  | _ => none

def parse? (content : String) : Option Version :=
  ofChars (Text.trimmed content.toList)

/-! ## Order -/

/-- What versions are compared by. The rank puts a pre-release below its release, and the empty key
ends the pre-release, so that a longer one with the same beginning is greater. -/
def key (version : Version) : List (List Nat) :=
  [version.major] :: [version.minor] :: [version.patch] ::
    [if version.preRelease.isEmpty then 1 else 0] ::
      (version.preRelease.map Identifier.key ++ [] :: version.build.map Identifier.key)

def rank (version : Option Version) : List (List Nat) :=
  match version with
  | some version => version.key
  | none => []

end Version

end Provision
