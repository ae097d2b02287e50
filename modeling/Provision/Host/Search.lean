import Provision.Host.FileTree
import Provision.Plan.Basic

/-!
# Finding programs

A bare name is looked for in the directories of the search path that the command will see, in their
order; a name with more than one component is looked for below the working directory only. What is
found must be a file that can be run. If nothing is found the name is used as it is given.
-/

namespace Provision.Host

/-- What surrounds the program: the variables of its environment and the directory it works in. -/
structure Surroundings where
  bindings : Dictionary Bytes Bytes
  directory : Place

namespace Surroundings

def directoryPath (surroundings : Surroundings) : Bytes :=
  if surroundings.directory = [] then [Path.slash]
  else surroundings.directory.flatMap (Path.slash :: ·)

def value? (surroundings : Surroundings) (name : String) : Option Bytes :=
  surroundings.bindings.get? (Utf8.encode name)

end Surroundings

namespace Search

def separator : UInt8 := 0x3A

def isRunnable (tree : FileTree) (here : Place) (path : Bytes) : Bool :=
  match tree.status here path with
  | .ok (.data _ executable) => executable
  | .ok (.program _) => true
  | _ => false

def pathFor (surroundings : Surroundings) (command : Command) : Option Bytes :=
  match command.bindings.get? Variable.searchPath with
  | some path => some (Utf8.encode path)
  | none => surroundings.value? Variable.searchPath

def tilde : Bytes := [0x7E]

def directoryOf (home : Option Bytes) (entry : Bytes) : Bytes :=
  match Path.components entry, home with
  | .name first :: rest, some home =>
      if first = tilde ∧ home ≠ [] then
        rest.foldl (fun path component => Path.join path component.bytes) home
      else entry
  | _, _ => entry

def candidates (surroundings : Surroundings) (path name : Bytes) : List Bytes :=
  (Text.splitOn separator path).map fun entry =>
    Path.join (directoryOf (surroundings.value? Variable.home) entry) name

/-- The path of a name with several components: itself if it begins at the root, and otherwise its
components below the working directory. -/
def belowWorkingDirectory (surroundings : Surroundings) (name : Bytes) : Bytes :=
  if Path.isAbsolute name then name
  else
    ((Path.components name).dropWhile (· = .current)).foldl
      (fun path component => Path.join path component.bytes) surroundings.directoryPath

inductive Miss where
  | noSearchPath
  | notFound
  deriving DecidableEq, Repr

def Miss.text : Miss → String
  | .noSearchPath => "no path to search and provided name is not an absolute path"
  | .notFound => "cannot find binary path"

def find (surroundings : Surroundings) (tree : FileTree) (command : Command) : Except Miss Bytes :=
  let name := Utf8.encode command.program
  let runnable := isRunnable tree surroundings.directory
  if 1 < (Path.components name).length then
    let path := belowWorkingDirectory surroundings name
    if runnable path then .ok path else .error .notFound
  else
    match pathFor surroundings command with
    | none => .error .noSearchPath
    | some path =>
        match (candidates surroundings path name).find? runnable with
        | some path => .ok path
        | none => .error .notFound

/-- The path to start a command by: the one that was found, or the name as it is given. -/
def resolve (surroundings : Surroundings) (tree : FileTree) (command : Command) : Bytes :=
  match find surroundings tree command with
  | .ok path => path
  | .error _ => Utf8.encode command.program

end Search

end Provision.Host
