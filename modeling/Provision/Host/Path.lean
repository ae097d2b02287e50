import Provision.Text.Split
import Provision.Text.Utf8

/-!
# Paths

A path is a byte string whose parts are separated by slashes. Taken apart it is a list of components;
empty parts do not count, and a dot counts only in front.
-/

namespace Provision.Host.Path

def slash : UInt8 := 0x2F

def dot : Bytes := [0x2E]

def dots : Bytes := [0x2E, 0x2E]

inductive Component where
  | root
  | current
  | above
  | name (bytes : Bytes)
  deriving DecidableEq, Repr

def isAbsolute (path : Bytes) : Bool :=
  path.head? = some slash

theorem is_absolute_of_not_mem {path : Bytes} (absent : slash ∉ path) : isAbsolute path = false := by
  cases path with
  | nil => rfl
  | cons first rest =>
      have differs : first ≠ slash := fun same => absent (same ▸ List.mem_cons_self)
      simp [isAbsolute, differs]

def Component.ofPart? (part : Bytes) : Option Component :=
  if part = [] ∨ part = dot then none
  else if part = dots then some .above
  else some (.name part)

def components (path : Bytes) : List Component :=
  let parts := Text.splitOn slash path
  let rest := parts.filterMap Component.ofPart?
  if isAbsolute path then .root :: rest
  else if parts.head? = some dot then .current :: rest
  else rest

def Component.bytes : Component → Bytes
  | .root => [slash]
  | .current => dot
  | .above => dots
  | .name bytes => bytes

def join (base path : Bytes) : Bytes :=
  if isAbsolute path then path
  else if base = [] ∨ base.getLast? = some slash then base ++ path
  else base ++ slash :: path

/-- The length of what stands before the parts: the slash of the root, or a leading dot. -/
def frontLength (path : Bytes) : Nat :=
  if isAbsolute path || (Text.splitOn slash path).head? = some dot then 1 else 0

def cutLast (front : Nat) (path : Bytes) : Bytes × Bytes :=
  let body := path.drop front
  let part := (body.reverse.takeWhile (· ≠ slash)).reverse
  let cut := if part.length < body.length then part.length + 1 else part.length
  (path.take (path.length - cut), part)

def trimEnd (front : Nat) : Nat → Bytes → Bytes
  | 0, path => path
  | steps + 1, path =>
      if path.length ≤ front then path
      else
        let (rest, part) := cutLast front path
        if (Component.ofPart? part).isSome then path else trimEnd front steps rest

def parent? (path : Bytes) : Option Bytes :=
  let front := frontLength path
  let trimmed := trimEnd front path.length path
  if front < trimmed.length then some (trimEnd front path.length (cutLast front trimmed).1)
  else if isAbsolute path || front = 0 then none
  else some []

end Provision.Host.Path
