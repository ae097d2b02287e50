import Provision.Library.Source
import Provision.Library.Table
import Provision.Log.Event
import Provision.Plan.Basic

/-!
# Installing the library

A managed library is installed by its package manager into an environment of its own. A direct one is
fetched from the archive of releases, unpacked, and installed without questions.
-/

namespace Provision.Library

def managerCommand (arguments : List String) : Command :=
  ({ program := "conda" } : Command).withArguments arguments

def managedSteps (version : String) : List Command :=
  [ managerCommand ["config", "--set", "always_yes", "yes"],
    managerCommand ["config", "--set", "changeps1", "no"],
    managerCommand ["create", "-y", "-n", Settings.managedEnvironment]
      |>.argument s!"{Settings.managedPackage}=={version}"
      |>.asInstaller ]

def extractCommand : Command :=
  ({ program := "7z" } : Command).withArguments ["x", Settings.archiveFile, "-y"]

def installCommand (release : Release) : Command :=
  ({ program := "msiexec" } : Command)
    |>.withArguments ["/i", release.installer, "/qn"]
    |>.asInstaller

def title (version : String) (source : LibrarySource) : String :=
  s!"Installing HDF5 ({version}, source={source.text})"

def managedPlan (version : String) : Plan :=
  (managedSteps version).foldl Plan.run { title := title version .managed }

def directPlan (version : String) (release : Release) : Plan :=
  ({ title := title version .direct } : Plan)
    |>.download release.url Settings.archiveFile
    |>.run extractCommand
    |>.run (installCommand release)

/-- What is asked for: the source and the version, both of which have to be set. -/
def request (snapshot : Snapshot) : Except ProvisionError (LibrarySource × String) :=
  match LibrarySource.requested snapshot with
  | .error error => .error error
  | .ok none => .error (.missingConfiguration Variable.librarySource)
  | .ok (some source) =>
      (snapshot.require Variable.libraryVersion).map fun version => (source, version)

def plan (snapshot : Snapshot) (table : ReleaseTable) : Except ProvisionError Plan :=
  match request snapshot with
  | .error error => .error error
  | .ok (.managed, version) => .ok (managedPlan version)
  | .ok (.direct, version) =>
      match table.get? version with
      | some release => .ok (directPlan version release)
      | none => .error (.unsupportedVersion version table.versions)

def planRemark (requested : LibrarySource × String) : Log.Event where
  level := .info
  origin := .library
  message := "planning HDF5 installation"
  values := [("source", requested.1.text), ("version", Text.quoted requested.2)]

def remarks (snapshot : Snapshot) : List Log.Event :=
  (request snapshot).toOption.toList.map planRemark

end Provision.Library
