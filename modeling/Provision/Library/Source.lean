import Provision.Environment.Snapshot
import Provision.Settings

/-!
# Where the library comes from

A managed library is a package in an environment of its own; a direct one is installed for the whole
machine from its archive. Each has two names, in which the case of ASCII letters does not count.
-/

namespace Provision

inductive LibrarySource where
  | managed
  | direct
  deriving DecidableEq, Repr

namespace LibrarySource

def accepted : List String := ["conda", "managed", "msi", "direct"]

def text : LibrarySource → String
  | .managed => "conda"
  | .direct => "msi"

def parse? (name : String) : Option LibrarySource :=
  let lower := name.toLower
  if lower = "conda" ∨ lower = "managed" then some .managed
  else if lower = "msi" ∨ lower = "direct" then some .direct
  else none

def requested (snapshot : Snapshot) : Except ProvisionError (Option LibrarySource) :=
  match snapshot.get? Variable.librarySource with
  | none => .ok none
  | some name =>
      match parse? name with
      | some source => .ok (some source)
      | none => .error (.invalidConfiguration Variable.librarySource name accepted)

end LibrarySource

end Provision
