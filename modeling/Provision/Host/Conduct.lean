import Provision.Dictionary
import Provision.Host.Path

/-!
# What programs do

A program that is called sees its arguments, its variables, the directory it is called in and the files. It
writes to the two standard streams, changes files, may leave other programs among them as an installer
does, and ends with a code or by a signal. `Conduct` says nothing more about programs, so one that did well
may fail when it is called again. A `Script` is a program that does the same at each call.
-/

namespace Provision.Host

abbrev Place := List Bytes

inductive Sight where
  | directory
  | data (content : ByteArray)
  | program

structure Call where
  arguments : List Bytes
  bindings : Dictionary Bytes Bytes
  directory : Place
  sees : Place → Option Sight

/-- What a program does at a path. Where the files do not allow it, nothing happens. -/
inductive Change (program : Type) where
  | directory (path : Bytes)
  | data (path : Bytes) (content : ByteArray)
  | program (path : Bytes) (left : program)
  | removal (path : Bytes)

/-- What comes of a call. A code is absent when a signal ended the program. -/
structure Reaction (program : Type) where
  output : Bytes := []
  errorOutput : Bytes := []
  changes : List (Change program) := []
  code : Option Int := some 0

inductive Conduct where
  | reacting (react : Call → Reaction Conduct)

def Conduct.react : Conduct → Call → Reaction Conduct
  | reacting react => react

namespace Call

def equalsSign : UInt8 := 0x3D

def variableString (entry : Bytes × Bytes) : Bytes :=
  entry.1 ++ equalsSign :: entry.2

def line (content : Bytes) : Bytes := content ++ [0x0A]

/-- The value of a variable as a child sees it, who takes the name to end at the first equals sign. Of
several variables that then have one name, the last counts. -/
def seenValue? (call : Call) (name : Bytes) : Option Bytes :=
  let strings := call.bindings.entries.map variableString
  (strings.filter fun entry => entry.takeWhile (· ≠ equalsSign) = name).getLast?.map fun entry =>
    (entry.dropWhile (· ≠ equalsSign)).drop 1

def variableLine (call : Call) (name : String) : Bytes :=
  let value := (call.seenValue? (Utf8.encode name)).getD (Utf8.encode "<unset>")
  line (variableString (Utf8.encode name, value))

def argumentLine (argument : Bytes) : Bytes :=
  line (Utf8.encode "arg[" ++ argument ++ Utf8.encode "]")

end Call

structure Script where
  output : Option String := none
  errorOutput : Option String := none
  showsArguments : Bool := false
  showsVariables : List String := []
  touches : Option String := none
  signal : Option Nat := none
  code : Int := 0
  deriving DecidableEq, Repr

namespace Script

def harmlessSignals : List Nat := [0, 17, 18, 23, 28]

def ending (script : Script) : Option Int :=
  match script.signal with
  | some signal => if harmlessSignals.contains signal then some script.code else none
  | none => some script.code

def reaction (script : Script) (call : Call) : Reaction Conduct where
  output :=
    (script.output.map fun text => Call.line (Utf8.encode text)).getD [] ++
      (if script.showsArguments then call.arguments.flatMap Call.argumentLine else []) ++
      script.showsVariables.flatMap call.variableLine
  errorOutput := (script.errorOutput.map fun text => Call.line (Utf8.encode text)).getD []
  changes := (script.touches.map fun path => Change.data (Utf8.encode path) .empty).toList
  code := script.ending

def conduct (script : Script) : Conduct := .reacting script.reaction

instance : Coe Script Conduct := ⟨conduct⟩

end Script

end Provision.Host
