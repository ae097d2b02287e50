/-!
# Actions

The three things that the program can be asked to do, and the names they are asked for by.
-/

namespace Provision

inductive Action where
  | installToolchain
  | installLibrary
  | runTests
  deriving DecidableEq, Repr

namespace Action

def all : List Action := [.installToolchain, .installLibrary, .runTests]

def names : Action → List String
  | .installToolchain => ["install-toolchain", "install-rust"]
  | .installLibrary => ["install-library", "install-hdf5"]
  | .runTests => ["run-tests"]

def named? (name : String) : Option Action :=
  all.find? fun action => action.names.contains name

def parse? (name : String) (ignoresCase : Bool) : Option Action :=
  named? (if ignoresCase then name.toLower else name)

def unknown (name : String) : String :=
  s!"invalid variant: {name}"

/-- Every name of an action finds it, as it is written. -/
theorem parse?_names (action : Action) :
    ∀ name ∈ action.names, parse? name false = some action := by
  cases action <;> decide

end Action

end Provision
