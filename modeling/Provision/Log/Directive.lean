import Provision.Log.Event
import Provision.Log.Pattern
import Provision.Text.Blank

/-!
# Directives of the log

A directive says how much is logged of some events: of those that come from a part of the program, of
those that have a field, or of those within a span. `Directive.read` finds its parts in the text without
the blanks at its ends, and takes them from the same places of the text as it is written, so blanks at
the end belong to the last part.
-/

namespace Provision.Log

/-- A field that events must have, and a value that it must have in the spans around them. -/
structure FieldCondition where
  name : String
  value : Option String := none
  deriving DecidableEq, Repr

/-- A directive: how much is logged of the events that meet its conditions. Zero is nothing, five is
all. -/
structure Directive where
  target : Option String := none
  span : Option String := none
  field : Option FieldCondition := none
  verbosity : Nat
  deriving DecidableEq, Repr

namespace Directive

/-- What is wrong with a directive: its form, the amount that it gives, or the value that it asks for. -/
inductive Fault where
  | malformed
  | unknownAmount
  | unreadableValue
  deriving DecidableEq, Repr

def Fault.text : Fault → String
  | .malformed => "invalid filter directive"
  | .unknownAmount =>
      "error parsing level filter: expected one of \"off\", \"error\", \"warn\", \"info\", " ++
        "\"debug\", \"trace\", or a number 0-5"
  | .unreadableValue => "invalid field filter: error building NFA"

/-! ## Amounts -/

def allVerbosity : Nat := 5

def namedVerbosity? (word : String) : Option Nat :=
  [("off", 0), ("error", 1), ("warn", 2), ("info", 3), ("debug", 4), ("trace", 5)].lookup
    word.toLower

def numericVerbosity? (chars : List Char) : Option Nat :=
  let digits := if chars.head? = some '+' then chars.drop 1 else chars
  if digits ≠ [] && digits.all Text.isDigit && Text.numberOf 10 digits ≤ allVerbosity then
    some (Text.numberOf 10 digits)
  else none

def verbosity? (chars : List Char) : Option Nat :=
  (numericVerbosity? chars).or (namedVerbosity? (String.ofList chars))

def readAmount (chars : List Char) : Except Fault Nat :=
  if chars = [] then .ok allVerbosity
  else
    match verbosity? chars with
    | some verbosity => .ok verbosity
    | none => .error .unknownAmount

/-! ## Parts -/

def part (written : List Char) (start stop : Nat) : String :=
  String.ofList ((written.drop start).take (stop - start))

/-- The first place, not before a start, of a character that ends a part, and what stands there. -/
def stop (ends : Char → Bool) (trimmed : List Char) (start : Nat) : Nat × Option Char :=
  let inside := (trimmed.drop start).takeWhile (!ends ·)
  (start + inside.length, trimmed[start + inside.length]?)

def readField (chars : List Char) : Except Fault FieldCondition :=
  let name := String.ofList (chars.takeWhile (· ≠ '='))
  match chars.dropWhile (· ≠ '=') with
  | [] => .ok { name }
  | _ :: rest =>
      let value := rest.takeWhile (· ≠ '=')
      if Pattern.isReadable value then .ok { name, value := some (String.ofList value) }
      else .error .unreadableValue

def readEnd (written trimmed : List Char) (start : Nat) (conditions : Directive) :
    Except Fault Directive :=
  match trimmed[start]? with
  | none => .ok { conditions with verbosity := allVerbosity }
  | some '=' =>
      (readAmount (written.drop (start + 1))).map fun verbosity => { conditions with verbosity }
  | some _ => .error .malformed

/-- Reads the conditions between brackets: the name of a span, and a field between braces. -/
def readBrackets (written trimmed : List Char) (start : Nat) (conditions : Directive) :
    Except Fault Directive :=
  match stop (fun c => c = ']' || c = '\x7b') trimmed start with
  | (place, some ']') =>
      readEnd written trimmed (place + 1) { conditions with span := some (part written start place) }
  | (place, some _) =>
      let name := part written start place
      let (last, closing) := stop (· = '\x7d') trimmed (place + 1)
      let field := part written (place + 1) last
      if closing.isNone || field.isEmpty then .error .malformed
      else
        match readField field.toList with
        | .error fault => .error fault
        | .ok field =>
            if trimmed[last + 1]? ≠ some ']' then .error .malformed
            else
              readEnd written trimmed (last + 2)
                { conditions with
                  span := if name.isEmpty then none else some name
                  field := some field }
  | (_, none) => .error .malformed

def isFirst (c : Char) : Bool :=
  Text.isAlphanumeric c || c = '-' || c = ':' || c = '_'

def read (written : List Char) : Except Fault Directive :=
  let trimmed := Text.trimmed written
  let conditions : Directive := { verbosity := allVerbosity }
  match trimmed with
  | [] => .error .malformed
  | '[' :: _ => readBrackets written trimmed 1 conditions
  | first :: _ =>
      if !isFirst first then .error .malformed
      else
        match stop (fun c => c = '=' || c = '[') trimmed 0 with
        | (_, none) =>
            match verbosity? written with
            | some verbosity => .ok { conditions with verbosity }
            | none => .ok { conditions with target := some (String.ofList written) }
        | (place, some '[') =>
            readBrackets written trimmed (place + 1)
              { conditions with target := some (part written 0 place) }
        | (place, some _) =>
            readEnd written trimmed place
              { conditions with target := some (part written 0 place) }

/-! ## Events -/

/-- Whether a directive says something of events outside of spans. -/
def isStatic (directive : Directive) : Bool :=
  directive.span.isNone && (directive.field.bind FieldCondition.value).isNone

def concerns (directive : Directive) (event : Event) : Bool :=
  (directive.target.getD "").toList.isPrefixOf event.origin.target.toList &&
    (directive.field.map fun field => event.fields.contains field.name).getD true

/-- How closely a directive describes events: by the length of its target, then by its field. -/
def closeness (directive : Directive) : Nat × String :=
  ((directive.target.map fun target => target.utf8ByteSize + 1).getD 0,
    (directive.field.map fun field => "." ++ field.name).getD "")

def isLooser (directive other : Directive) : Bool :=
  let (length, field) := directive.closeness
  let (otherLength, otherField) := other.closeness
  length < otherLength || (length = otherLength && field ≤ otherField)

end Directive

end Provision.Log
