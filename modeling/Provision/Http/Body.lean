import Provision.Http.Head
import Provision.Text.Split

/-!
# Bodies of answers

The head of an answer tells how its body ends: after a number of bytes, with the last of its chunks, or
when the server closes the connection. A body is delivered in pieces; a delivery that breaks off has not
delivered all of it.
-/

namespace Provision.Http

inductive Framing where
  | sized (size : Nat)
  | chunked
  | untilClose
  deriving DecidableEq, Repr

/-- A body on its way: its pieces, whether all of it arrives, and the length that was announced. -/
structure Delivery where
  chunks : List ByteArray := []
  complete : Bool := true
  announced : Option Nat := none

/-- How many bytes arrive at once when the server does not divide the body. -/
def arrivalSize : Nat := 8192

def pieces (size : Nat) (data : ByteArray) : List ByteArray :=
  let step := if size = 0 then arrivalSize else size
  (List.range ((data.size + step - 1) / step)).map fun index =>
    data.extract (index * step) ((index + 1) * step)

namespace Framing

/-! ## What the head tells -/

def wordsOf? (value : Bytes) : Option (List String) :=
  if value.all (· < 0x80) then
    some ((Text.splitOn 0x2C value).map fun word => Head.nameOf (Head.trimmed word))
  else none

def areChunked (codings : List Bytes) : Bool :=
  ((codings.getLast?.bind wordsOf?).bind List.getLast?) = some "chunked"

def largestSize : Nat := Nat.pow 2 64 - 3

def readSize? (word : String) : Option Nat :=
  let size := Text.numberOf 10 word.toList
  if !word.isEmpty && word.toList.all Text.isDigit && size ≤ largestSize then some size else none

def agreedSize? (lengths : List Bytes) : Option Nat :=
  match (lengths.mapM wordsOf?).bind fun words => words.flatten.mapM readSize? with
  | some (size :: others) => if others.all (· = size) then some size else none
  | _ => none

def ofHead? (head : Head) : Option Framing :=
  if Status.isBodiless head.status then some (.sized 0)
  else
    match head.values "transfer-encoding", head.values "content-length" with
    | [], [] => some .untilClose
    | [], lengths => (agreedSize? lengths).map .sized
    | codings, _ =>
        if !head.knowsChunks then none
        else if areChunked codings then some .chunked
        else some .untilClose

end Framing

namespace Chunk

/-! ## Chunks -/

/-- How many bytes the remarks on the sizes of chunks may have together. -/
def remarkLimit : Nat := 16383

def largestSize : Nat := Nat.pow 2 64 - 1

/-- A chunk as it is sent: its size in hexadecimal digits, and its data. -/
def written (data : ByteArray) : ByteArray :=
  (Text.hexadecimal data.size).toByteArray ++ Line.ending ++ data ++ Line.ending

def lastWritten : ByteArray :=
  "0".toByteArray ++ Line.ending ++ Line.ending

/-- Reads the line with the size of a chunk, and answers the length of the remark on it. -/
def readSize? (line : Bytes) : Option (Nat × Nat) :=
  let chars := (Line.bare line).map Char.ofUInt8
  let digits := chars.takeWhile Text.isHexDigit
  let size := Text.numberOf 16 digits
  if line.getLast? ≠ some Line.carriageReturn ∨ digits = [] ∨ largestSize < size then none
  else
    match (chars.dropWhile Text.isHexDigit).dropWhile fun c => c = ' ' || c = '\t' with
    | [] => some (size, 0)
    | ';' :: remark => if remark.contains '\r' then none else some (size, remark.length)
    | _ => none

/-! ## What follows the last chunk -/

def trailerLimit : Nat := 99

def trailerSize : Nat := 16383

/-- The lines up to an empty one, the number of those that end with a carriage return, and the place
behind them. A carriage return may only stand at the end of a line. -/
def trailerLines? (data : ByteArray) (isFresh : Bool) (start : Nat) :
    Option (List Bytes × Nat × Nat) :=
  match Line.read? data start with
  | none => none
  | some (line, next) =>
      if (Line.bare line).contains Line.carriageReturn then none
      else
        let isEnded := line.getLast? = some Line.carriageReturn
        if isFresh && line = [Line.carriageReturn] then some ([], 0, next.1)
        else
          (trailerLines? data isEnded next.1).map fun (lines, ended, stop) =>
            (line :: lines, ended + (if isEnded then 1 else 0), stop)
termination_by data.size - start
decreasing_by
  have := next.2
  omega

def endsAt (data : ByteArray) (start : Nat) : Bool :=
  match trailerLines? data true start with
  | none => false
  | some (lines, ended, stop) =>
      ended ≤ trailerLimit && stop - start ≤ trailerSize && Head.areHeaders ended lines

def isEnding (data : ByteArray) (place : Nat) : Bool :=
  (data.extract place (place + 2)).data = Line.ending.data

/-- Reads chunks behind those that have been read, the last of which comes first, and answers whether
all of them arrive. -/
def readAll (data : ByteArray) (room : Nat) (start : Nat) (read : List ByteArray) :
    List ByteArray × Bool :=
  match Line.read? data start with
  | none => (read.reverse, false)
  | some (line, next) =>
      match readSize? line with
      | none => (read.reverse, false)
      | some (size, remark) =>
          if room < remark then (read.reverse, false)
          else if size = 0 then (read.reverse, endsAt data next.1)
          else
            let chunk := data.extract next.1 (next.1 + size)
            if chunk.isEmpty then (read.reverse, false)
            else if chunk.size = size && isEnding data (next.1 + size) then
              readAll data (room - remark) (next.1 + size + 2) (chunk :: read)
            else ((chunk :: read).reverse, false)
termination_by data.size - start
decreasing_by
  have := next.2
  omega

end Chunk

namespace Delivery

def ofData (data : ByteArray) (start : Nat) : Framing → Delivery
  | .sized size =>
      let body := data.extract start (start + size)
      { chunks := pieces arrivalSize body, complete := body.size = size, announced := some size }
  | .chunked =>
      let (chunks, complete) := Chunk.readAll data Chunk.remarkLimit start []
      { chunks, complete }
  | .untilClose => { chunks := pieces arrivalSize (data.extract start data.size) }

end Delivery

end Provision.Http
