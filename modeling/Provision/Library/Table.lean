import Provision.Dictionary
import Provision.Error
import Provision.Library.Release

/-!
# The table of releases

A table holds at most one release per version. It is read from a list of releases, which is refused as
a whole when a version stands in it twice.
-/

namespace Provision

structure ReleaseTable where
  releases : Dictionary String Release
  deriving DecidableEq

namespace ReleaseTable

def empty : ReleaseTable := ⟨.empty⟩

def add (table : ReleaseTable) (release : Release) : Except TableFault ReleaseTable :=
  if table.releases.contains release.version then .error (.duplicateVersion release.version)
  else .ok ⟨table.releases.insert release.version release⟩

def ofReleases (releases : List Release) : Except TableFault ReleaseTable :=
  releases.foldlM add empty

def parse (content : String) : Except ProvisionError ReleaseTable :=
  match Release.parseAll content with
  | .error fault => .error (.releaseTable (.document fault))
  | .ok releases =>
      match ofReleases releases with
      | .error fault => .error (.releaseTable fault)
      | .ok table => .ok table

def get? (table : ReleaseTable) (version : String) : Option Release :=
  table.releases.get? version

def versions (table : ReleaseTable) : List String :=
  table.releases.keys

/-- The releases that the program knows by itself. -/
def knownReleases : List Release :=
  [ { version := "1.8.21"
      archive := "hdf5-1.8.21-Std-win7_64-vs14.zip"
      installer := "hdf\\HDF5-1.8.21-win64.msi" },
    { version := "1.10.0"
      archive := "windows/extra/hdf5-1.10.0-win64-VS2015-shared.zip"
      installer := "hdf5\\HDF5-1.10.0-win64.msi" } ]

def embedded : Except ProvisionError ReleaseTable :=
  (ofReleases knownReleases).mapError .releaseTable

/-- The document of these releases, line by line. -/
def knownLines : List String :=
  [ "# Prebuilt HDF5 Windows binaries from the HDF Group archive.",
    "#",
    "# `archive` is relative to `<prev-releases>/hdf5-<family>/hdf5-<version>/bin/`;",
    "# `installer` is the MSI path inside the extracted archive.",
    "",
    "[[release]]",
    "version = \"1.8.21\"",
    "archive = \"hdf5-1.8.21-Std-win7_64-vs14.zip\"",
    "installer = 'hdf\\HDF5-1.8.21-win64.msi'",
    "",
    "[[release]]",
    "version = \"1.10.0\"",
    "archive = \"windows/extra/hdf5-1.10.0-win64-VS2015-shared.zip\"",
    "installer = 'hdf5\\HDF5-1.10.0-win64.msi'" ]

def knownText : String :=
  String.ofList (knownLines.flatMap fun line => line.toList ++ ['\n'])

theorem parse_all_known : Release.parseAll knownText = .ok knownReleases := by
  have known : (Release.parseAll knownText).toOption = some knownReleases := by
    rw [Release.parseAll, Toml.document?, Toml.statements?, knownText, String.toList_ofList]
    decide +kernel
  generalize Release.parseAll knownText = read at known ⊢
  cases read with
  | error fault => cases known
  | ok releases => exact congrArg _ (Option.some.inj known)

/-- The table that the program knows by itself is that of its document. -/
theorem parse_known : parse knownText = embedded := by
  rw [parse, parse_all_known, embedded]
  dsimp only
  cases ofReleases knownReleases with
  | error fault => rfl
  | ok table => rfl

end ReleaseTable

end Provision
