import Provision.Text.Digits
import Provision.Text.Utf8

/-!
# Percent encoding

A character that may not stand for itself in a part of an address is written as its bytes, each as a
percent sign and two upper-case hexadecimal digits. Which characters those are depends on the part.
-/

namespace Provision.Http.Percent

def isControl (c : Char) : Bool :=
  c.toNat < 0x20 || 0x7E < c.toNat

def inFragment (c : Char) : Bool :=
  isControl c || [' ', '"', '<', '>', '\x60'].contains c

def inQuery (c : Char) : Bool :=
  isControl c || [' ', '"', '#', '<', '>'].contains c

def inSpecialQuery (c : Char) : Bool :=
  inQuery c || c = '\''

def inPath (c : Char) : Bool :=
  inFragment c || ['#', '?', '\x7b', '\x7d'].contains c

def inUserInfo (c : Char) : Bool :=
  inPath c || ['/', ':', ';', '=', '@', '[', '\\', ']', '^', '|'].contains c

def encodeByte (byte : UInt8) : List Char :=
  ['%', Text.upperHexDigit (byte.toNat / 16), Text.upperHexDigit (byte.toNat % 16)]

def encode (encodes : Char → Bool) (chars : List Char) : List Char :=
  chars.flatMap fun c =>
    if encodes c then (Utf8.encode c.toString).flatMap encodeByte else [c]

/-- The bytes that characters stand for; a percent sign without two digits stands for itself. -/
def decode : List Char → Bytes
  | '%' :: high :: low :: rest =>
      match Text.hexDigit? high, Text.hexDigit? low with
      | some upper, some lower => (upper * 16 + lower).toUInt8 :: decode rest
      | _, _ => 0x25 :: decode (high :: low :: rest)
  | c :: rest => Utf8.encode c.toString ++ decode rest
  | [] => []

end Provision.Http.Percent
