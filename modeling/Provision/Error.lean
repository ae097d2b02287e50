import Provision.Text.Quoted
import Provision.Toml.Fault

/-!
# Errors

What can end a run, as causes; `message` words a cause and `exitCode` is the status that it ends the
program with. A failure is a cause inside the contexts that name what was being done: they add lines
to what is shown and change neither the cause nor the status.
-/

namespace Provision

inductive DownloadError where
  | network (url problem : String)
  | file (path problem : String)
  deriving DecidableEq

def DownloadError.message : DownloadError → String
  | .network url problem => s!"Network error downloading '{url}': {problem}"
  | .file path problem => s!"IO error for '{path}': {problem}"

inductive TableFault where
  | document (fault : Toml.Fault)
  | duplicateVersion (version : String)
  | described (problem : String)

def TableFault.description : TableFault → String
  | .document fault => fault.description
  | .duplicateVersion version => s!"duplicate entry for version {version}"
  | .described problem => problem

/-- Why provisioning failed. An exit code is absent when a signal ended the process. -/
inductive ProvisionError where
  | missingConfiguration (name : String)
  | invalidConfiguration (name value : String) (expected : List String)
  | unsupportedVersion (version : String) (supported : List String)
  | downloadFailure (cause : DownloadError)
  | installFailure (command : String) (code : Option Int)
  | commandFailure (command : String) (code : Option Int)
  | spawn (program problem : String)
  | releaseTable (fault : TableFault)

def exitDescription : Option Int → String
  | some code => s!"exit code {code}"
  | none => "no exit code (terminated by signal)"

namespace ProvisionError

def message : ProvisionError → String
  | .missingConfiguration name =>
      s!"Missing configuration: environment variable {name} is not set"
  | .invalidConfiguration name value expected =>
      "Invalid configuration: " ++ name ++ "=" ++ Text.quoted value ++
        " (expected one of: " ++ String.intercalate ", " expected ++ ")"
  | .unsupportedVersion version supported =>
      s!"Unsupported HDF5 version '{version}' (known versions: " ++
        String.intercalate ", " supported ++ ")"
  | .downloadFailure cause => s!"Download failed: {cause.message}"
  | .installFailure command code =>
      s!"Installer failed: `{command}` exited with {exitDescription code}"
  | .commandFailure command code =>
      s!"Command failed: `{command}` exited with {exitDescription code}"
  | .spawn program problem => s!"Failed to start '{program}': {problem}"
  | .releaseTable fault => s!"Invalid release table: {fault.description}"

/-- The status that the program ends with: the code of the process that failed, if it has one other
than zero, and otherwise one. -/
def exitCode : ProvisionError → Int
  | .installFailure _ (some code) | .commandFailure _ (some code) => if code = 0 then 1 else code
  | _ => 1

/-- No error ends the program with the status of success. -/
theorem exit_code_ne_zero (error : ProvisionError) : error.exitCode ≠ 0 := by
  unfold exitCode
  split
  · split
    · decide
    · assumption
  · split
    · decide
    · assumption
  · decide

def innerMessages : ProvisionError → List String
  | .downloadFailure cause => [cause.message]
  | _ => []

end ProvisionError

structure Failure where
  contexts : List String := []
  cause : ProvisionError

namespace Failure

def wrap (failure : Failure) (context : String) : Failure :=
  { failure with contexts := context :: failure.contexts }

def chain (failure : Failure) : List String :=
  failure.contexts ++ failure.cause.message :: failure.cause.innerMessages

def message (failure : Failure) : String :=
  (failure.contexts.head?).getD failure.cause.message

def exitCode (failure : Failure) : Int :=
  failure.cause.exitCode

/-- The report of a failure: the outermost message, and a line for each message below it. -/
def report (failure : Failure) : String :=
  s!"✗ {failure.message}\n" ++
    String.join (failure.chain.tail.map fun cause => s!"    caused by: {cause}\n")

theorem chain_wrap (failure : Failure) (context : String) :
    (failure.wrap context).chain = context :: failure.chain := rfl

end Failure

end Provision
