import Provision.Toml.Value

/-!
# Why a document is refused

Either the text is no document at all, or a record in it has another shape than the list of releases
asks for.
-/

namespace Provision.Toml

inductive Shape where
  | sequence
  | record
  | text
  deriving DecidableEq, Repr

def Shape.description : Shape → String
  | .sequence => "a sequence"
  | .record => "struct LibraryRelease"
  | .text => "a string"

inductive Fault where
  | malformed
  | missingField (name : String)
  | wrongShape (found : Value) (expected : Shape)
  | tooShort (length : Nat)

def Fault.description : Fault → String
  | .malformed => "syntax"
  | .missingField name => s!"missing field `{name}`"
  | .wrongShape found expected =>
      s!"invalid type: {found.description}, expected {expected.description}"
  | .tooShort length =>
      s!"invalid length {length}, expected {Shape.record.description} with 3 elements"

end Provision.Toml
