import Provision.Installed
import Provision.Library.Source
import Provision.Plan.Basic

/-!
# Building and testing

The tests have to see the library: a managed one through its environment's directories, a direct one
through the directory of the installed program. When asked to, they also see the requested version.
-/

namespace Provision.TestRun

def managedDirectory (root : String) : String :=
  root ++ "\\envs\\" ++ Settings.managedEnvironment

def managedDelta (root : String) : Delta :=
  let directory := managedDirectory root
  Settings.managedSubdirectories.foldl
    (fun delta subdirectory => delta.prepend (directory ++ "\\" ++ subdirectory))
    (Delta.empty.set Variable.libraryDirectory directory)

def directDelta (found : Option Installation) : Delta :=
  match found with
  | some installation => Delta.empty.prepend installation.binDirectory
  | none => Delta.empty

def pin (snapshot : Snapshot) (delta : Delta) : Delta :=
  if snapshot.isSet Variable.pinVersion then
    match snapshot.get? Variable.libraryVersion with
    | some version => delta.set Variable.pinnedVersion version
    | none => delta
  else delta

def source (snapshot : Snapshot) : Except ProvisionError LibrarySource :=
  (LibrarySource.requested snapshot).map (·.getD .direct)

def libraryDelta (snapshot : Snapshot) (find : String → Option Installation) :
    Except ProvisionError Delta :=
  match source snapshot with
  | .error error => .error error
  | .ok .managed => (snapshot.require Variable.managerRoot).map managedDelta
  | .ok .direct => .ok (directDelta (find Settings.libraryDisplayName))

def delta (snapshot : Snapshot) (find : String → Option Installation) :
    Except ProvisionError Delta :=
  (libraryDelta snapshot find).map (pin snapshot)

def buildCommand (arguments : List String) (bindings : Dictionary String String) : Command :=
  ({ program := "cargo" } : Command).withArguments arguments |>.withBindings bindings

def planWith (snapshot : Snapshot) (delta : Delta) : Plan :=
  ({ title := "Running tests", delta } : Plan)
    |>.run (buildCommand ["build", "-vv"] (delta.overrides snapshot))
    |>.run (buildCommand ["test", "-v", "--all"] (delta.overrides snapshot))

def plan (snapshot : Snapshot) (find : String → Option Installation) :
    Except ProvisionError Plan :=
  (delta snapshot find).map (planWith snapshot)

/-! ## Remarks -/

def remark (level : Log.Level) (message : String) : Log.Event where
  level := level
  origin := .testRun
  message := message

def libraryRemarks (snapshot : Snapshot) (lookup : Lookup) : List Log.Event :=
  match source snapshot with
  | .error _ => []
  | .ok .managed =>
      match snapshot.get? Variable.managerRoot with
      | some root =>
          [remark .info s!"setting {Variable.libraryDirectory} to {managedDirectory root}"]
      | none => []
  | .ok .direct =>
      lookup.remarks Settings.libraryDisplayName ++
        match lookup.find Settings.libraryDisplayName with
        | some installation =>
            [remark .info s!"found {installation.displayName} at {installation.path}"]
        | none =>
            [remark .warn ("no installed program named " ++
              Text.quoted Settings.libraryDisplayName ++
              s!", leaving {Variable.searchPath} unchanged")]

def pinRemarks (snapshot : Snapshot) : List Log.Event :=
  if snapshot.isSet Variable.pinVersion then
    match snapshot.get? Variable.libraryVersion with
    | some version => [remark .info s!"pinning HDF5 version to {version}"]
    | none =>
        [remark .debug (s!"{Variable.pinVersion} is set but {Variable.libraryVersion} is not, " ++
          "not pinning")]
  else []

/-- What planning remarks. There is nothing to say about the version if the library is not settled. -/
def remarks (snapshot : Snapshot) (lookup : Lookup) : List Log.Event :=
  libraryRemarks snapshot lookup ++
    match libraryDelta snapshot lookup.find with
    | .ok _ => pinRemarks snapshot
    | .error _ => []

end Provision.TestRun
