import Provision.Text.Utf8

/-!
# Text without terminal controls

A terminal takes controls and escape sequences as orders and shows the rest. `Terminal.plain` is what is
left of a text when nothing is to be ordered. Within the sequences that set attributes, a tab or the end
of a line is shown and ends the sequence; the sequences that carry a text take everything up to their
end.
-/

namespace Provision.Text.Terminal

/-- What a terminal is reading: shown text, the bytes of a character after the first, or a part of an
escape sequence. -/
inductive State where
  | shown
  | character (missing : Nat)
  | escape
  | intermediate
  | control
  | parameters
  | controlEnd
  | ignored
  | device
  | deviceParameters
  | deviceEnd
  | deviceText
  | title
  deriving DecidableEq, Repr

def cancels (byte : UInt8) : Bool :=
  byte = 0x18 || byte = 0x1A

def escapeByte : UInt8 := 0x1B

def isLayout (byte : UInt8) : Bool :=
  byte = 0x09 || byte = 0x0A || byte = 0x0C || byte = 0x0D

def within (low high byte : UInt8) : Bool :=
  low ≤ byte && byte ≤ high

def missingBytes (byte : UInt8) : Nat :=
  if within 0xC2 0xDF byte then 1
  else if within 0xE0 0xEF byte then 2
  else if within 0xF0 0xF4 byte then 3
  else 0

def nextShown (byte : UInt8) : State × Bool :=
  match missingBytes byte with
  | 0 => (.shown, within 0x20 0x7E byte || isLayout byte)
  | missing => (.character missing, true)

def afterEscape (byte : UInt8) : State :=
  if within 0x20 0x2F byte then .intermediate
  else if byte = 0x5B then .control
  else if byte = 0x5D then .title
  else if byte = 0x50 then .device
  else if byte = 0x58 || byte = 0x5E || byte = 0x5F then .deviceText
  else if within 0x30 0x7E byte then .shown
  else .escape

def inSequence (state : State) (byte : UInt8) : State :=
  match state with
  | .escape => afterEscape byte
  | .intermediate => if within 0x30 0x7E byte then .shown else state
  | .control =>
      if within 0x20 0x2F byte then .controlEnd
      else if within 0x30 0x3F byte then .parameters
      else if within 0x40 0x7E byte then .shown
      else state
  | .parameters =>
      if within 0x20 0x2F byte then .controlEnd
      else if within 0x3C 0x3F byte then .ignored
      else if within 0x40 0x7E byte then .shown
      else state
  | .controlEnd =>
      if within 0x30 0x3F byte then .ignored
      else if within 0x40 0x7E byte then .shown
      else state
  | .ignored => if within 0x40 0x7E byte then .shown else state
  | .device =>
      if within 0x20 0x2F byte then .deviceEnd
      else if within 0x30 0x3F byte then .deviceParameters
      else if within 0x40 0x7E byte then .deviceText
      else state
  | .deviceParameters =>
      if within 0x20 0x2F byte then .deviceEnd
      else if within 0x3C 0x7E byte then .deviceText
      else state
  | .deviceEnd => if within 0x30 0x7E byte then .deviceText else state
  | .deviceText => if byte = 0x9C then .shown else state
  | .title => if byte = 0x07 then .shown else state
  | .shown | .character _ => .shown

def showsLayout : State → Bool
  | .escape | .intermediate | .control | .parameters | .controlEnd | .ignored => true
  | _ => false

def next (state : State) (byte : UInt8) : State × Bool :=
  match state with
  | .character (missing + 2) => (.character (missing + 1), true)
  | .character _ => (.shown, true)
  | _ =>
      if cancels byte then (.shown, false)
      else if byte = escapeByte then (.escape, false)
      else if state = .shown then nextShown byte
      else if showsLayout state && isLayout byte then (.shown, true)
      else (inSequence state byte, false)

def plainFrom (state : State) : Bytes → Bytes
  | [] => []
  | byte :: rest =>
      let (after, isShown) := next state byte
      if isShown then byte :: plainFrom after rest else plainFrom after rest

def plain (text : String) : String :=
  Utf8.decodeLossy (plainFrom .shown (Utf8.encode text))

end Provision.Text.Terminal
