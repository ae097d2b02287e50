import Provision.Environment.Snapshot
import Provision.Settings

/-!
# Changes to an environment

A plan describes what it changes for its commands and leaves the program's own environment alone. A
delta sets variables and puts directories in front of the search path, each in front of those before.
-/

namespace Provision

/-- Variables to set, and directories to put in front of the search path in order of the calls. -/
structure Delta where
  bindings : Dictionary String String := .empty
  prepends : List String := []
  deriving DecidableEq

namespace Delta

def empty : Delta := {}

def set (delta : Delta) (name value : String) : Delta :=
  { delta with bindings := delta.bindings.insert name value }

def prepend (delta : Delta) (directory : String) : Delta :=
  { delta with prepends := delta.prepends ++ [directory] }

def isEmpty (delta : Delta) : Bool :=
  delta.bindings.isEmpty && delta.prepends.isEmpty

/-- What is joined to the search path: the directories, the last one first, and the path they stand in
front of, unless that is empty. -/
def searchEntries (delta : Delta) (base : Option String) : List String :=
  delta.prepends.reverse ++ (base.filter fun path => !path.isEmpty).toList

def searchPath (delta : Delta) (base : Option String) : Option String :=
  if delta.prepends.isEmpty then none
  else some (String.intercalate Settings.searchPathSeparator (delta.searchEntries base))

def overrides (delta : Delta) (snapshot : Snapshot) : Dictionary String String :=
  match delta.searchPath (snapshot.get? Variable.searchPath) with
  | some path => delta.bindings.insert Variable.searchPath path
  | none => delta.bindings

def apply (delta : Delta) (snapshot : Snapshot) : Snapshot :=
  ⟨snapshot.bindings.overlay (delta.overrides snapshot)⟩

end Delta

end Provision
