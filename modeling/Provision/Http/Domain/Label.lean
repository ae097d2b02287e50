import Provision.Http.Domain.Composition
import Provision.Http.Domain.Mapping
import Provision.Http.Domain.Script
import Provision.Http.Punycode

/-!
# Labels of a domain

A label is a part of a domain between its dots. One that has other characters than those of ASCII is
written as a code in ASCII, `xn--` in front. Whether it is given as it is or as its code, it must not
begin with a mark, an invisible joiner must have something to join, and in a domain that has characters
written to the left every label keeps to one direction.
-/

namespace Provision.Http.Domain

def codeMark : List Char := "xn--".toList

def isPlain (chars : List Char) : Bool :=
  chars.all (·.toNat < 0x80)

def isCoded (label : List Char) : Bool :=
  codeMark.isPrefixOf (label.map Char.toLower)

/-! ## Joiners -/

/-- The class of the marks behind which a letter takes another shape. -/
def shapingClass : Nat := 9

/-- Whether the first character that joining does not pass over is one of two kinds of letters. -/
def meetsLetter (kind : Text.Ranges) : List Char → Bool
  | [] => false
  | c :: rest =>
      Text.inRanges kind c.toNat || Text.inRanges joinedBoth c.toNat ||
        (Text.inRanges passedOver c.toNat && meetsLetter kind rest)

/-- Whether a character may stand between others; those before it are in reverse. A joiner needs a mark
that shapes letters before it, or, if it is the one that separates, letters to separate. -/
def mayJoin (before : List Char) (c : Char) (after : List Char) : Bool :=
  if c ≠ '\u200c' ∧ c ≠ '\u200d' then true
  else
    (before.head?.map markClass) = some shapingClass ||
      (c = '\u200c' && meetsLetter joinedLeft before && meetsLetter joinedRight after)

def allMayJoin (before : List Char) : List Char → Bool
  | [] => true
  | c :: rest => mayJoin before c rest && allMayJoin (c :: before) rest

/-! ## Directions -/

def turnsLeft (c : Char) : Bool :=
  direction c = .leftward || direction c = .arabicNumber

def keepsTo (start : Direction) (directions : List Direction) : Bool :=
  match start with
  | .rightward => directions.all fun other => other ≠ .leftward && other ≠ .arabicNumber
  | .leftward =>
      directions.all (· ≠ .rightward) &&
        !(directions.contains .europeanNumber && directions.contains .arabicNumber)
  | _ => false

def mayEnd (start last : Direction) : Bool :=
  match start with
  | .rightward => last = .rightward || last = .europeanNumber
  | _ => last = .leftward || last = .europeanNumber || last = .arabicNumber

def isOneWay (label : List Char) : Bool :=
  match label.map direction with
  | [] => true
  | start :: rest =>
      keepsTo start (start :: rest) &&
        mayEnd start (((start :: rest).reverse.dropWhile (· = .mark)).headD start)

/-! ## Labels -/

def longestCode : Nat := 2000

def longestCoded : Nat := 1000

def mayStand (label : List Char) : Bool :=
  !((label.head?.map isMark).getD false) && allMayJoin [] label

def isNormal (label : List Char) : Bool :=
  label.all isSettled && composition label = label

/-- A label: how it is written in ASCII, and the characters that it has. -/
structure Label where
  written : List Char
  chars : List Char

def readCoded (label : List Char) : Option Label :=
  let code := label.drop codeMark.length
  if code.length ≤ longestCode ∧ code.getLast? ≠ some '-' then
    match Punycode.decode? code with
    | some chars =>
        if chars ≠ [] ∧ isNormal chars ∧ mayStand chars then some { written := label, chars }
        else none
    | none => none
  else none

def Label.read (label : List Char) : Option Label :=
  if isCoded label then readCoded label
  else if isPlain label then some { written := label, chars := label }
  else if label.length ≤ longestCoded ∧ mayStand label then
    some { written := Punycode.encode label, chars := label }
  else none

/-! ## Domains -/

def readLabels (chars : List Char) : Option (List Label) := do
  let settled ← chars.mapM mapped?
  (Text.splitOn '.' (composition settled.flatten)).mapM Label.read

def areOneWay (labels : List Label) : Bool :=
  !(labels.any fun label => label.chars.any turnsLeft) || labels.all (isOneWay ·.chars)

/-- A domain in ASCII: small letters, and codes for labels with other characters. -/
def toAscii? (chars : List Char) : Option (List Char) :=
  if isPlain chars && !(Text.splitOn '.' chars).any isCoded then some (chars.map Char.toLower)
  else
    match readLabels chars with
    | some labels =>
        if areOneWay labels then some (Text.joined '.' (labels.map Label.written)) else none
    | none => none

end Provision.Http.Domain
