import Provision.Http.Line
import Provision.Http.Status
import Provision.Text.Digits

/-!
# Heads of answers

An answer begins with a line that gives its status, and with headers up to an empty line. `Head.read?`
refuses what is no head: another version, a status that has not three digits, a header whose name is no
token or whose value has controls, and too many headers.
-/

namespace Provision.Http

structure Head where
  knowsChunks : Bool
  status : Nat
  headers : List (String × Bytes)
  deriving DecidableEq, Repr

namespace Head

/-! ## Headers -/

def isToken (byte : UInt8) : Bool :=
  let c := Char.ofUInt8 byte
  Text.isLetter c || Text.isDigit c || "!#$%&'*+-.^_\x60|~".toList.contains c

def isBlank (byte : UInt8) : Bool :=
  byte = 0x20 || byte = 0x09

/-- Whether a byte may stand in the value of a header or in the words for a status. -/
def isVisible (byte : UInt8) : Bool :=
  isBlank byte || (0x21 ≤ byte && byte ≠ 0x7F)

def trimmed (bytes : Bytes) : Bytes :=
  ((bytes.dropWhile isBlank).reverse.dropWhile isBlank).reverse

def nameOf (bytes : Bytes) : String :=
  String.ofList (bytes.map fun byte => (Char.ofUInt8 byte).toLower)

def readHeader? (line : Bytes) : Option (String × Bytes) :=
  match line.takeWhile isToken, line.dropWhile isToken with
  | [], _ => none
  | name, 0x3A :: value => if value.all isVisible then some (nameOf name, trimmed value) else none
  | _, _ => none

def readHeaders? (data : ByteArray) (room : Nat) (start : Nat) :
    Option (List (String × Bytes) × Behind data start) :=
  match Line.read? data start with
  | none => none
  | some (line, next) =>
      match Line.bare line, room with
      | [], _ => some ([], next)
      | _, 0 => none
      | bytes, room + 1 =>
          match readHeader? bytes, readHeaders? data room next.1 with
          | some header, some (headers, stop) => some (header :: headers, next.further stop)
          | _, _ => none

/-- Whether lines are headers up to the end or to an empty line, of which there is only room for
some. -/
def areHeaders : Nat → List Bytes → Bool
  | _, [] => true
  | room, line :: rest =>
      match Line.bare line, room with
      | [], _ => true
      | _, 0 => false
      | bytes, room + 1 => (readHeader? bytes).isSome && areHeaders room rest

/-! ## The first line -/

def headerLimit : Nat := 100

def readNumber? (digits : Bytes) : Option Nat :=
  let chars := digits.map Char.ofUInt8
  let number := Text.numberOf 10 chars
  if chars.length = 3 && chars.all Text.isDigit && 100 ≤ number then some number else none

def readVersion? (word : Bytes) : Option Bool :=
  if word = Utf8.encode "HTTP/1.1" then some true
  else if word = Utf8.encode "HTTP/1.0" then some false
  else none

/-- Reads the first line: a version, a status and words for it, which may be missing. -/
def readStatus? (line : Bytes) : Option (Bool × Nat) :=
  let number := (line.drop 9).take 3
  match readVersion? (line.take 8), (line.drop 8).head?, readNumber? number, line.drop 12 with
  | some knowsChunks, some 0x20, some status, [] => some (knowsChunks, status)
  | some knowsChunks, some 0x20, some status, 0x20 :: words =>
      if words.all isVisible then some (knowsChunks, status) else none
  | _, _, _, _ => none

def readFirst? (data : ByteArray) (start : Nat) : Option ((Bool × Nat) × Behind data start) :=
  match Line.read? data start with
  | none => none
  | some (line, next) =>
      if Line.bare line = [] then
        (readFirst? data next.1).map fun (first, stop) => (first, next.further stop)
      else (readStatus? (Line.bare line)).map fun first => (first, next)
termination_by data.size - start
decreasing_by
  have := next.2
  omega

/-! ## Whole heads -/

def read? (data : ByteArray) (start : Nat) : Option (Head × Behind data start) :=
  match readFirst? data start with
  | none => none
  | some ((knowsChunks, status), next) =>
      (readHeaders? data headerLimit next.1).map fun (headers, stop) =>
        ({ knowsChunks, status, headers }, next.further stop)

def values (head : Head) (name : String) : List Bytes :=
  (head.headers.filter fun header => header.1 = name).map Prod.snd

end Head

end Provision.Http
