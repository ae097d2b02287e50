import Provision.Text.Alphanumeric
import Provision.Text.Digits

/-!
# Patterns of values

A directive may ask for the value of a field by a pattern, a regular expression. Values are those of the
spans around an event, and there are none here, so all that matters of a pattern is whether it can be
read (`Pattern.isReadable`).

The readers of parts answer how many characters they have read.
-/

namespace Provision.Log

namespace Pattern

/-- What stands at one place of a pattern: a character, or a condition on the place. -/
inductive Atom where
  | character (c : Char)
  | place
  deriving DecidableEq, Repr

/-! ## Escapes -/

def numbered? (number : Nat) : Option Char :=
  if valid : number.isValidChar then some (Char.ofNatAux number valid) else none

def digitsAfter? : Char → Option Nat
  | 'x' => some 2
  | 'u' => some 4
  | 'U' => some 8
  | _ => none

/-- What a letter or a sign behind a backslash stands for. What needs the classes of letters and words
cannot be read. -/
def escaped? (c : Char) : Option Atom :=
  match c with
  | 'a' => some (.character '\x07')
  | 'f' => some (.character '\x0c')
  | 't' => some (.character '\t')
  | 'n' => some (.character '\n')
  | 'r' => some (.character '\r')
  | 'v' => some (.character '\x0b')
  | 'A' => some .place
  | 'z' => some .place
  | '<' => none
  | '>' => none
  | _ => if c.toNat < 0x80 && !Text.isLetter c && !Text.isDigit c then some (.character c) else none

def readEscape : List Char → Option (Atom × Nat)
  | [] => none
  | c :: rest =>
      match digitsAfter? c with
      | none => (escaped? c).map fun atom => (atom, 1)
      | some count =>
          let digits := rest.take count
          if digits.length = count && digits.all Text.isHexDigit then
            (numbered? (Text.numberOf 16 digits)).map fun character =>
              (.character character, count + 1)
          else none

/-! ## Sets of characters -/

def setNames : List String :=
  ["alnum", "alpha", "ascii", "blank", "cntrl", "digit", "graph", "lower", "print", "punct", "space",
    "upper", "word", "xdigit"]

/-- Reads the name of a set behind its opening bracket, up to the bracket that closes it. -/
def readSetName (chars : List Char) : Option Nat :=
  let start := if chars.take 2 = [':', '^'] then 2 else 1
  let name := (chars.drop start).takeWhile (· ≠ ':')
  if chars.head? = some ':' && setNames.contains (String.ofList name) &&
      (chars.drop (start + name.length)).take 2 = [':', ']'] then
    some (start + name.length + 2)
  else none

/-- How many characters belong to the opening of a set: a sign that turns it into its opposite, then
dashes, or a closing bracket where no dash stands before it. -/
def openingSize (chars : List Char) : Nat :=
  let start := if chars.head? = some '^' then 1 else 0
  let dashes := (chars.drop start).takeWhile (· = '-')
  if dashes.isEmpty && chars[start]? = some ']' then start + 1 else start + dashes.length

/-- Reads a member of a set that begins with a character. The count is of those behind it. -/
def readMember (first : Char) (rest : List Char) : Option (Char × Nat) :=
  if first ≠ '\\' then some (first, 0)
  else
    match readEscape rest with
    | some (.character character, count) => some (character, count)
    | _ => none

/-- Reads a member of a set, or all characters from one to another. The count is of those behind the
first one. -/
def readMembers (first : Char) (rest : List Char) : Option Nat :=
  match readMember first rest with
  | none => none
  | some (lowest, count) =>
      match rest.drop count with
      | '-' :: next :: others =>
          if next = ']' || next = '-' then some count
          else
            match readMember next others with
            | some (highest, further) =>
                if lowest ≤ highest then some (count + 2 + further) else none
            | none => none
      | _ => some count

def joinsSets (first second : Char) : Bool :=
  first = second && (first = '&' || first = '-' || first = '~')

/-- Reads the members of a set up to the bracket that closes it, where so many sets around it are
open. -/
def readSet (depth : Nat) : List Char → Option Nat
  | [] => none
  | c :: rest =>
      let further (depth count : Nat) : Option Nat :=
        (readSet depth (rest.drop count)).map (· + count + 1)
      if c = ']' then
        match depth with
        | 0 => some 1
        | depth + 1 => further depth 0
      else if c = '[' then
        match readSetName rest with
        | some count => further depth count
        | none => further (depth + 1) (openingSize rest)
      else if (rest.head?.map (joinsSets c)).getD false then further depth 1
      else
        match readMembers c rest with
        | some count => further depth count
        | none => none
termination_by chars => chars.length
decreasing_by simp only [List.length_drop, List.length_cons]; omega

/-! ## Groups -/

/-- Whether letters between the opening of a group and its end say how its pattern is meant: each of them
once, and some behind a dash. -/
def areFlags (letters : List Char) : Bool :=
  letters.all ("imsUuRx-".toList.contains ·) && letters.Nodup && letters.getLast? ≠ some '-'

def isGroupName : List Char → Bool
  | [] => false
  | first :: others =>
      (first = '_' || (Text.isAlphanumeric first && !Text.isDigit first)) &&
        others.all fun c => c = '_' || c = '.' || c = '[' || c = ']' || Text.isAlphanumeric c

structure Progress where
  /-- How many groups are open. -/
  depth : Nat := 0
  /-- Whether something stands before this place that can be repeated. -/
  canRepeat : Bool := false
  /-- The names of the groups. -/
  names : List (List Char) := []

def Progress.full (progress : Progress) : Progress :=
  { progress with canRepeat := true }

def Progress.fresh (progress : Progress) : Progress :=
  { progress with canRepeat := false }

def Progress.opened (progress : Progress) : Progress :=
  { progress.fresh with depth := progress.depth + 1 }

def nameStart? : List Char → Option Nat
  | '<' :: _ => some 1
  | 'P' :: '<' :: _ => some 2
  | _ => none

/-- Reads what follows the question mark at the start of a group: its name, or how its pattern or the
pattern behind it is meant. -/
def readMark (progress : Progress) (chars : List Char) : Option (Progress × Nat) :=
  match nameStart? chars with
  | some start =>
      let name := (chars.drop start).takeWhile (· ≠ '>')
      if isGroupName name && chars[start + name.length]?.isSome && !progress.names.contains name then
        some ({ progress.opened with names := name :: progress.names }, start + name.length + 1)
      else none
  | none =>
      let flags := chars.takeWhile fun c => c ≠ ':' && c ≠ ')'
      match chars[flags.length]? with
      | some ':' => if areFlags flags then some (progress.opened, flags.length + 1) else none
      | some _ =>
          if areFlags flags && !flags.isEmpty then some (progress.fresh, flags.length + 1) else none
      | none => none

/-! ## Patterns -/

def isReadableFrom (progress : Progress) : List Char → Bool
  | [] => progress.depth = 0
  | '(' :: '?' :: rest =>
      match readMark progress rest with
      | some (next, count) => isReadableFrom next (rest.drop count)
      | none => false
  | '(' :: rest => isReadableFrom progress.opened rest
  | ')' :: rest =>
      match progress.depth with
      | 0 => false
      | depth + 1 => isReadableFrom { progress.full with depth } rest
  | '|' :: rest => isReadableFrom progress.fresh rest
  | '[' :: rest =>
      let start := openingSize rest
      match readSet 0 (rest.drop start) with
      | some count => isReadableFrom progress.full (rest.drop (start + count))
      | none => false
  | '\\' :: rest =>
      match readEscape rest with
      | some (_, count) => isReadableFrom progress.full (rest.drop count)
      | none => false
  | c :: rest =>
      if c = '?' || c = '*' || c = '+' then
        progress.canRepeat &&
          isReadableFrom progress (rest.drop (if rest.head? = some '?' then 1 else 0))
      else c ≠ '\x7b' && isReadableFrom progress.full rest
termination_by chars => chars.length
decreasing_by all_goals simp only [List.length_drop, List.length_cons]; omega

/-! ## Values -/

/-- Whether characters are a number with a fraction and an exponent, each of which may be missing. -/
def isNumber (chars : List Char) : Bool :=
  let whole := chars.takeWhile Text.isDigit
  let rest := chars.drop whole.length
  let fraction := if rest.head? = some '.' then (rest.drop 1).takeWhile Text.isDigit else []
  let rest := if rest.head? = some '.' then rest.drop (fraction.length + 1) else rest
  let exponent := rest.drop (if rest[1]? = some '+' || rest[1]? = some '-' then 2 else 1)
  !(whole.isEmpty && fraction.isEmpty) &&
    (rest.isEmpty ||
      ((rest.head? = some 'e' || rest.head? = some 'E') && !exponent.isEmpty &&
        exponent.all Text.isDigit))

/-- Whether a value behind a sign is one of the numbers that have names, or is written with digits. -/
def isAmount (chars : List Char) : Bool :=
  isNumber chars || ["inf", "infinity", "nan"].contains (String.ofList chars).toLower

/-- Whether the value that a field must have can be read: as a number, or else as a pattern. -/
def isReadable (chars : List Char) : Bool :=
  (chars.head? = some '+' && isAmount (chars.drop 1)) || isReadableFrom {} chars

end Pattern

end Provision.Log
