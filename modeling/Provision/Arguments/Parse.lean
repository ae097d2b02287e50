import Provision.Action
import Provision.Arguments.Help
import Provision.Text.Split
import Provision.Text.Terminal

/-!
# Arguments

Arguments are read from left to right. A flag may stand anywhere and short flags may be written
together; one argument that is no flag names the action, and after `--` nothing is a flag. The name of
the action is looked at when the next flag or the end is reached, so an argument that is wrong in
itself is reported first.
-/

namespace Provision.Arguments

inductive Flag where
  | verbose
  | quiet
  | dryRun
  | help (long : Bool)
  | version
  deriving DecidableEq, Repr

def Flag.text : Flag → String
  | .verbose => "--verbose..."
  | .quiet => "--quiet"
  | .dryRun => "--dry-run"
  | .help _ => "--help"
  | .version => "--version"

def Flag.ofLetter? (letter : Char) : Option Flag :=
  match letter with
  | 'v' => some .verbose
  | 'q' => some .quiet
  | 'h' => some (.help false)
  | 'V' => some .version
  | _ => none

def Flag.ofName? (name : String) : Option Flag :=
  if name = "verbose" then some .verbose
  else if name = "quiet" then some .quiet
  else if name = "dry-run" then some .dryRun
  else if name = "help" then some (.help true)
  else if name = "version" then some .version
  else none

/-- Why no action is run. Help and version are asked for; the others are mistakes. -/
inductive Fault where
  | helpAsked (long : Bool)
  | versionAsked
  | unknownArgument (argument : String)
  | invalidAction (name : String)
  | missingAction
  | unexpectedValue (flag : Flag) (value : String)
  | repeatedFlag (flag : Flag)
  deriving DecidableEq, Repr

namespace Fault

def exitCode : Fault → Int
  | .helpAsked _ | .versionAsked => 0
  | _ => 2

def reply? : Fault → Option String
  | .helpAsked long => some (if long then longHelp else shortHelp)
  | .versionAsked => some versionLine
  | _ => none

def description : Fault → String
  | .unknownArgument argument => s!"unexpected argument '{Text.Terminal.plain argument}' found"
  | .invalidAction name =>
      if name.isEmpty then "a value is required for '<ACTION>' but none was supplied"
      else s!"invalid value '{Text.Terminal.plain name}' for '<ACTION>'"
  | .missingAction => "the following required arguments were not provided:"
  | .unexpectedValue flag value =>
      let shown := Text.Terminal.plain value
      s!"unexpected value '{shown}' for '{flag.text}' found; no more were expected"
  | .repeatedFlag flag => s!"the argument '{flag.text}' cannot be used multiple times"
  | .helpAsked _ | .versionAsked => ""

def headline (fault : Fault) : String :=
  String.ofList (Text.firstLine s!"error: {fault.description}".toList)

end Fault

structure Invocation where
  action : Action
  verbosity : Nat := 0
  quiet : Bool := false
  dryRun : Bool := false
  deriving DecidableEq, Repr

def greatestVerbosity : Nat := 255

/-- How far the arguments have been read. `candidate` is the name of the action before it has been
looked at. -/
structure Reading where
  verbosity : Nat := 0
  quiet : Bool := false
  dryRun : Bool := false
  candidate : Option String := none
  action : Option Action := none
  flagsEnded : Bool := false
  deriving DecidableEq

namespace Reading

def settle (reading : Reading) : Except Fault Reading :=
  match reading.candidate with
  | none => .ok reading
  | some name =>
      match Action.parse? name false with
      | some action => .ok { reading with action := some action, candidate := none }
      | none => .error (.invalidAction name)

def count (reading : Reading) (flag : Flag) : Except Fault Reading :=
  match flag with
  | .verbose => .ok { reading with verbosity := min (reading.verbosity + 1) greatestVerbosity }
  | .quiet =>
      if reading.quiet then .error (.repeatedFlag .quiet) else .ok { reading with quiet := true }
  | .dryRun =>
      if reading.dryRun then .error (.repeatedFlag .dryRun)
      else .ok { reading with dryRun := true }
  | .help long => .error (.helpAsked long)
  | .version => .error .versionAsked

def takeFlag (reading : Reading) (flag : Flag) : Except Fault Reading :=
  reading.settle >>= fun settled => settled.count flag

def takeLetter (reading : Reading) (letter : Char) : Except Fault Reading :=
  match Flag.ofLetter? letter with
  | some flag => reading.takeFlag flag
  | none => .error (.unknownArgument (String.ofList ['-', letter]))

def takeLong (reading : Reading) (body : List Char) : Except Fault Reading :=
  let name := String.ofList (body.takeWhile (· ≠ '='))
  match Flag.ofName? name with
  | none => .error (.unknownArgument ("--" ++ name))
  | some flag =>
      match body.dropWhile (· ≠ '=') with
      | [] => reading.takeFlag flag
      | _ :: value => .error (.unexpectedValue flag (String.ofList value))

def takeName (reading : Reading) (name : String) : Except Fault Reading :=
  if reading.candidate.isSome || reading.action.isSome then .error (.unknownArgument name)
  else .ok { reading with candidate := some name }

def take (reading : Reading) (argument : String) : Except Fault Reading :=
  if reading.flagsEnded then reading.takeName argument
  else
    match argument.toList with
    | ['-', '-'] => .ok { reading with flagsEnded := true }
    | '-' :: '-' :: body => reading.takeLong body
    | ['-'] => reading.takeName argument
    | '-' :: letters => letters.foldlM takeLetter reading
    | _ => reading.takeName argument

def finish (reading : Reading) : Except Fault Invocation :=
  reading.settle >>= fun settled =>
    match settled.action with
    | some action =>
        .ok { action, verbosity := settled.verbosity, quiet := settled.quiet,
              dryRun := settled.dryRun }
    | none => .error .missingAction

end Reading

def parse (arguments : List String) : Except Fault Invocation :=
  arguments.foldlM Reading.take {} >>= Reading.finish

end Provision.Arguments
