import Provision.Text.Utf8

/-!
# Interpreters

A file that begins with a number sign and an exclamation mark is run by the interpreter that its first
line names. Only the beginning of the file counts: a name that may have been cut off there names
nothing, whereas an argument may be cut off.
-/

namespace Provision.Host

/-- The program that runs a file, and what it is given before the path of the file. -/
structure Interpreter where
  path : Bytes
  argument : Option Bytes := none
  deriving DecidableEq, Repr

namespace Interpreter

def headSize : Nat := 256

def lineFeed : UInt8 := 0x0A

def isGap (byte : UInt8) : Bool :=
  byte = 0x20 || byte = 0x09

/-- Whether a byte ends a word. What lies behind the end of a short file counts as zeros. -/
def endsWord (byte : UInt8) : Bool :=
  isGap byte || byte = 0

def trimmedEnd (line : Bytes) : Bytes :=
  (line.reverse.dropWhile isGap).reverse

/-- What counts of a first line that does not end: the last byte only shows whether the name of the
interpreter ends before it. -/
def unendedLine? (head : Bytes) : Option Bytes :=
  let whole := head ++ List.replicate (headSize - 2 - head.length) 0
  if (whole.dropWhile isGap).any endsWord then some (trimmedEnd whole.dropLast) else none

def line? (head : Bytes) : Option Bytes :=
  let continues (byte : UInt8) : Bool := byte ≠ lineFeed && byte ≠ 0
  match head.dropWhile continues with
  | [] => unendedLine? head
  | stop :: _ =>
      if stop = lineFeed then some (trimmedEnd (head.takeWhile continues)) else unendedLine? head

/-- The interpreter that a line names: a word, behind which the rest is one argument. -/
def ofLine? (line : Bytes) : Option Interpreter :=
  match line.dropWhile isGap with
  | [] => none
  | named =>
      let path := named.takeWhile (!endsWord ·)
      match named.dropWhile (!endsWord ·) with
      | [] | 0 :: _ => some { path }
      | rest => some { path, argument := some ((rest.dropWhile isGap).takeWhile (· ≠ 0)) }

def ofContent? (content : ByteArray) : Option Interpreter :=
  match (content.extract 0 headSize).data.toList with
  | 0x23 :: 0x21 :: head => (line? head).bind ofLine?
  | _ => none

end Interpreter

end Provision.Host
