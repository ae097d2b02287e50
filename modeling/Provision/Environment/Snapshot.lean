import Provision.Dictionary
import Provision.Error
import Provision.Text.Utf8

/-!
# The environment of the program

The environment is read once. What is not text is left out, and a variable with an empty value counts
as one that is not set.
-/

namespace Provision

structure Snapshot where
  bindings : Dictionary String String
  deriving DecidableEq

namespace Snapshot

def ofPairs (pairs : List (String × String)) : Snapshot :=
  ⟨Dictionary.ofPairs pairs⟩

def readable? (entry : Bytes × Bytes) : Option (String × String) := do
  let name ← Utf8.decode? entry.1
  let value ← Utf8.decode? entry.2
  some (name, value)

def capture (bindings : List (Bytes × Bytes)) : Snapshot :=
  ofPairs (bindings.filterMap readable?)

/-- The value of a variable, unless it is empty. -/
def get? (snapshot : Snapshot) (name : String) : Option String :=
  (snapshot.bindings.get? name).filter fun value => !value.isEmpty

def require (snapshot : Snapshot) (name : String) : Except ProvisionError String :=
  match snapshot.get? name with
  | some value => .ok value
  | none => .error (.missingConfiguration name)

def isSet (snapshot : Snapshot) (name : String) : Bool :=
  (snapshot.get? name).isSome

end Snapshot

end Provision
