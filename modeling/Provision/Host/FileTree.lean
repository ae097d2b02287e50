import Provision.Host.Conduct

/-!
# Files

The files of the host are directories, data and programs, each at a place: the names that lead to it
from the root. A path is walked name by name through directories that exist.
-/

namespace Provision.Host

inductive Refusal where
  | notFound
  | argumentsTooLong
  | notAProgram
  | notPermitted
  | exists
  | notADirectory
  | isADirectory
  | fileTooLarge
  | nameTooLong
  | tooManyLevels
  | nulInPath
  | nulInData
  deriving DecidableEq, Repr

def Refusal.text : Refusal → String
  | .notFound => "No such file or directory (os error 2)"
  | .argumentsTooLong => "Argument list too long (os error 7)"
  | .notAProgram => "Exec format error (os error 8)"
  | .notPermitted => "Permission denied (os error 13)"
  | .exists => "File exists (os error 17)"
  | .notADirectory => "Not a directory (os error 20)"
  | .isADirectory => "Is a directory (os error 21)"
  | .fileTooLarge => "File too large (os error 27)"
  | .nameTooLong => "File name too long (os error 36)"
  | .tooManyLevels => "Too many levels of symbolic links (os error 40)"
  | .nulInPath => "file name contained an unexpected NUL byte"
  | .nulInData => "nul byte found in provided data"

inductive Entry where
  | directory
  | data (content : ByteArray) (executable : Bool)
  | program (conduct : Conduct)

/-- The files of the host. The root is always there. -/
structure FileTree where
  entries : Dictionary Place Entry

namespace FileTree

def entry? (tree : FileTree) (place : Place) : Option Entry :=
  if place = [] then some .directory else tree.entries.get? place

def put (tree : FileTree) (place : Place) (entry : Entry) : FileTree :=
  ⟨tree.entries.insert place entry⟩

def remove (tree : FileTree) (place : Place) : FileTree :=
  ⟨tree.entries.filter fun other _ => other ≠ place⟩

def leadingTo (place : Place) : FileTree :=
  (List.range place.length).foldl
    (fun tree count => tree.put (place.take (count + 1)) .directory) ⟨.empty⟩

def longestName : Nat := 255

/-- What is longer is no path. -/
def longestPath : Nat := 4096

def enter (tree : FileTree) (here : Place) (name : Bytes) : Except Refusal Place :=
  if longestName < name.length then .error .nameTooLong
  else if name = Path.dot then .ok here
  else if name = Path.dots then .ok here.dropLast
  else
    match tree.entry? (here ++ [name]) with
    | some .directory => .ok (here ++ [name])
    | some _ => .error .notADirectory
    | none => .error .notFound

/-- Where a path leads: a place, at which there may be nothing, and whether only a directory will do
there. -/
structure Target where
  place : Place
  wantsDirectory : Bool
  deriving DecidableEq, Repr

/-- Walks a path from a directory. Everything but its last name has to exist. -/
def locate (tree : FileTree) (here : Place) (path : Bytes) : Except Refusal Target :=
  if path.contains 0 then .error .nulInPath
  else if longestPath ≤ path.length then .error .nameTooLong
  else
    let start := if Path.isAbsolute path then [] else here
    let names := (Text.splitOn Path.slash path).filter (· ≠ [])
    match names.getLast? with
    | none => if path = [] then .error .notFound else .ok ⟨start, true⟩
    | some last =>
        match names.dropLast.foldlM tree.enter start with
        | .error refusal => .error refusal
        | .ok directory =>
            if last = Path.dot then .ok ⟨directory, true⟩
            else if last = Path.dots then .ok ⟨directory.dropLast, true⟩
            else .ok ⟨directory ++ [last], path.getLast? = some Path.slash⟩

/-- What is at a place that a path leads to, if its last name is not too long. -/
def entryAt (tree : FileTree) (place : Place) : Except Refusal (Option Entry) :=
  if longestName < (place.getLast?.map List.length).getD 0 then .error .nameTooLong
  else .ok (tree.entry? place)

def status (tree : FileTree) (here : Place) (path : Bytes) : Except Refusal Entry := do
  let target ← tree.locate here path
  match ← tree.entryAt target.place with
  | none => .error .notFound
  | some .directory => .ok .directory
  | some entry => if target.wantsDirectory then .error .notADirectory else .ok entry

def isDirectory (tree : FileTree) (here : Place) (path : Bytes) : Bool :=
  match tree.status here path with
  | .ok .directory => true
  | _ => false

def makeDirectory (tree : FileTree) (here : Place) (path : Bytes) : Except Refusal FileTree := do
  let target ← tree.locate here path
  match ← tree.entryAt target.place with
  | some _ => .error .exists
  | none => .ok (tree.put target.place .directory)

/-- Creates a directory and those above it that are missing; what has been created stays even if the
rest fails. -/
def makeDirectories (here : Place) : Nat → Bytes → FileTree → Option Refusal × FileTree
  | 0, _, tree => (some .notFound, tree)
  | steps + 1, path, tree =>
      if path = [] then (none, tree)
      else
        match tree.makeDirectory here path with
        | .ok created => (none, created)
        | .error .notFound =>
            match Path.parent? path with
            | none => (some .notFound, tree)
            | some parent =>
                match makeDirectories here steps parent tree with
                | (some refusal, created) => (some refusal, created)
                | (none, created) =>
                    match created.makeDirectory here path with
                    | .ok created => (none, created)
                    | .error refusal =>
                        if created.isDirectory here path then (none, created)
                        else (some refusal, created)
        | .error refusal =>
            if tree.isDirectory here path then (none, tree) else (some refusal, tree)

/-- Empties the file that a path leads to, or creates it. The place is where it can be written. -/
def openForWriting (tree : FileTree) (here : Place) (path : Bytes) :
    Except Refusal (Place × FileTree) := do
  let target ← tree.locate here path
  if target.wantsDirectory then .error .isADirectory
  else
    match ← tree.entryAt target.place with
    | some .directory => .error .isADirectory
    | some (.data _ executable) =>
        .ok (target.place, tree.put target.place (.data .empty executable))
    | some (.program _) => .ok (target.place, tree.put target.place (.data .empty true))
    | none => .ok (target.place, tree.put target.place (.data .empty false))

/-- Writes bytes behind those of the file at a place, up to a limit on its size. The rest is refused. -/
def append (tree : FileTree) (limit : Option Nat) (place : Place) (bytes : ByteArray) :
    Option Refusal × FileTree :=
  match tree.entry? place with
  | some (.data content executable) =>
      let room := (limit.map (· - content.size)).getD bytes.size
      if bytes.size ≤ room then (none, tree.put place (.data (content ++ bytes) executable))
      else
        (some .fileTooLarge, tree.put place (.data (content ++ bytes.extract 0 room) executable))
  | _ => (some .notFound, tree)

def unlink (tree : FileTree) (here : Place) (path : Bytes) : FileTree :=
  match tree.locate here path with
  | .error _ => tree
  | .ok target =>
      match tree.entry? target.place with
      | some .directory | none => tree
      | some _ => if target.wantsDirectory then tree else tree.remove target.place

/-! ## What programs see and change -/

def sight? (tree : FileTree) (place : Place) : Option Sight :=
  (tree.entry? place).map fun
    | .directory => .directory
    | .data content _ => .data content
    | .program _ => .program

def change (here : Place) (tree : FileTree) : Change Conduct → FileTree
  | .directory path =>
      match tree.makeDirectory here path with
      | .ok made => made
      | .error _ => tree
  | .data path content =>
      match tree.openForWriting here path with
      | .ok (place, opened) => (opened.append none place content).2
      | .error _ => tree
  | .program path left =>
      match tree.openForWriting here path with
      | .ok (place, opened) => opened.put place (.program left)
      | .error _ => tree
  | .removal path => tree.unlink here path

end FileTree

end Provision.Host
