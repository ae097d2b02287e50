import Provision.Host.Interpreter
import Provision.Host.Search

/-!
# Starting programs

A program is started with arguments and an environment, writes to the two standard streams, and ends
with a code or by a signal. The environment of a child is that of the program with the command's
variables laid over it. A file with an interpreter is started by starting that with the path of the
file as an argument.
-/

namespace Provision.Host

/-- A program to be started: by which path or name, with which arguments and variables. -/
structure Launch where
  program : Bytes
  arguments : List Bytes
  bindings : Dictionary Bytes Bytes

/-- What a program that has ended leaves. A code is absent when a signal ended it. -/
structure Trace where
  output : Bytes
  errorOutput : Bytes
  code : Option Int

namespace Launch

def encoded (bindings : Dictionary String String) : List (Bytes × Bytes) :=
  bindings.entries.map fun entry => (Utf8.encode entry.1, Utf8.encode entry.2)

def childBindings (surroundings : Surroundings) (overrides : Dictionary String String) :
    Dictionary Bytes Bytes :=
  surroundings.bindings.insertAll (encoded overrides)

def ofCommand (surroundings : Surroundings) (command : Command) (program : Bytes) : Launch where
  program := program
  arguments := command.arguments.map Utf8.encode
  bindings := childBindings surroundings command.bindings

def longestString : Nat := 131072

def strings (launch : Launch) : List Bytes :=
  launch.program :: launch.arguments ++ launch.bindings.entries.map Call.variableString

/-- The search path that is used when a child has none. -/
def standardPath : Bytes := Utf8.encode "/bin:/usr/bin"

def programAt (tree : FileTree) (here : Place) (path : Bytes) : Except Refusal Entry :=
  match tree.status here path with
  | .error refusal => .error refusal
  | .ok .directory => .error .notPermitted
  | .ok (.data content executable) =>
      if executable then .ok (.data content executable) else .error .notPermitted
  | .ok (.program conduct) => .ok (.program conduct)

def isPassedOver : Refusal → Bool
  | .notPermitted | .notFound | .notADirectory => true
  | _ => false

/-- What a search remembers: the last refusal, unless something may not be run. -/
def remembering (earlier later : Refusal) : Refusal :=
  if earlier = .notPermitted then earlier else later

/-- How many files a launch may lead through, from interpreter to interpreter. -/
def levelLimit : Nat := 6

/-- What stands at the path of an interpreter. Without a path it is the working directory. -/
def interpreterAt (tree : FileTree) (here : Place) (path : Bytes) : Except Refusal Entry :=
  if path = [] then .error .notPermitted else programAt tree here path

def resolve (tree : FileTree) (here : Place) :
    Nat → Bytes → List Bytes → Entry → Except Refusal (Conduct × List Bytes)
  | 0, _, _, _ => .error .tooManyLevels
  | _ + 1, _, arguments, .program conduct => .ok (conduct, arguments)
  | _ + 1, _, _, .directory => .error .notPermitted
  | levels + 1, path, arguments, .data content _ =>
      match Interpreter.ofContent? content with
      | none => .error .notAProgram
      | some interpreter =>
          match interpreterAt tree here interpreter.path with
          | .error refusal => .error refusal
          | .ok entry =>
              resolve tree here levels interpreter.path
                (interpreter.argument.toList ++ path :: arguments) entry

def start (launch : Launch) (tree : FileTree) (here : Place) (path : Bytes) :
    Except Refusal (Conduct × List Bytes) :=
  match programAt tree here path with
  | .error refusal => .error refusal
  | .ok entry =>
      if launch.strings.any (longestString ≤ ·.length) then .error .argumentsTooLong
      else resolve tree here levelLimit path launch.arguments entry

def startIn (launch : Launch) (tree : FileTree) (here : Place) (remembered : Refusal) :
    List Bytes → Except Refusal (Conduct × List Bytes)
  | [] => .error remembered
  | directory :: rest =>
      let path :=
        if directory = [] then launch.program else directory ++ Path.slash :: launch.program
      match launch.start tree here path with
      | .ok started => .ok started
      | .error refusal =>
          if isPassedOver refusal then
            startIn launch tree here (remembering remembered refusal) rest
          else .error refusal

/-- What a launch starts. A name without a slash is looked for in the child's search path. -/
def started (launch : Launch) (tree : FileTree) (here : Place) :
    Except Refusal (Conduct × List Bytes) :=
  if launch.program = [] then .error .notFound
  else if launch.program.contains Path.slash then launch.start tree here launch.program
  else
    let path := (launch.bindings.get? (Utf8.encode Variable.searchPath)).getD standardPath
    launch.startIn tree here .notFound (Text.splitOn Search.separator path)

def call (launch : Launch) (tree : FileTree) (here : Place) (arguments : List Bytes) : Call where
  arguments := arguments
  bindings := launch.bindings
  directory := here
  sees := tree.sight?

/-- What the system reports of a program that has ended: of its code only the last byte. -/
def trace (reaction : Reaction Conduct) : Trace where
  output := reaction.output
  errorOutput := reaction.errorOutput
  code := reaction.code.map (· % 256)

def run (launch : Launch) (tree : FileTree) (here : Place) : Except Refusal (Trace × FileTree) :=
  if launch.strings.any (·.contains 0) then .error .nulInData
  else
    match launch.started tree here with
    | .error refusal => .error refusal
    | .ok (conduct, arguments) =>
        let reaction := conduct.react (launch.call tree here arguments)
        .ok (trace reaction, reaction.changes.foldl (FileTree.change here) tree)

end Launch

end Provision.Host
