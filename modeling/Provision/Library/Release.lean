import Provision.Settings
import Provision.Toml.Document
import Provision.Toml.Fault

/-!
# Releases of the library

A release names its archive and the installer inside it. A list of releases is written as a document:
`Release.listed` writes it, and `Release.ofValue` and `Release.ofDocument` read the records of any
document that has the fields.
-/

namespace Provision

/-- A release: its version, its archive below the directory of the release, and the installer in the
archive. -/
structure Release where
  version : String
  archive : String
  installer : String
  deriving DecidableEq, Repr

namespace Release

def beforeLastDot? : List Char → Option (List Char)
  | [] => none
  | c :: rest =>
      match beforeLastDot? rest with
      | some before => some (c :: before)
      | none => if c = '.' then some [] else none

def family (release : Release) : String :=
  match beforeLastDot? release.version.toList with
  | some before => String.ofList before
  | none => release.version

def url (release : Release) : String :=
  s!"{Settings.libraryServer}/hdf5-{release.family}/hdf5-{release.version}/bin/{release.archive}"

/-! ## Records of a document -/

inductive Field where
  | version
  | archive
  | installer
  deriving DecidableEq, Repr

def Field.name : Field → String
  | .version => "version"
  | .archive => "archive"
  | .installer => "installer"

def Field.named? (name : String) : Option Field :=
  if name = "version" then some .version
  else if name = "archive" then some .archive
  else if name = "installer" then some .installer
  else none

structure Fields where
  version : Option String := none
  archive : Option String := none
  installer : Option String := none

def Fields.fill (found : Fields) (field : Field) (content : String) : Fields :=
  match field with
  | .version => { found with version := some content }
  | .archive => { found with archive := some content }
  | .installer => { found with installer := some content }

def textOf : Toml.Value → Except Toml.Fault String
  | .text content => .ok content
  | other => .error (.wrongShape other .text)

/-- Reads the fields of a record in the order in which they stand; other keys do not count. -/
def readFields (found : Fields) : List (String × Toml.Value) → Except Toml.Fault Fields
  | [] => .ok found
  | (name, value) :: rest =>
      match Field.named? name with
      | none => readFields found rest
      | some field =>
          match textOf value with
          | .ok content => readFields (found.fill field content) rest
          | .error fault => .error fault

def Fields.complete (found : Fields) : Except Toml.Fault Release :=
  match found.version, found.archive, found.installer with
  | some version, some archive, some installer => .ok ⟨version, archive, installer⟩
  | none, _, _ => .error (.missingField Field.version.name)
  | _, none, _ => .error (.missingField Field.archive.name)
  | _, _, none => .error (.missingField Field.installer.name)

/-- Reads a record that is written as an array: its first three elements are the fields in order. -/
def ofElements (elements : List Toml.Value) : Except Toml.Fault Release := do
  match elements with
  | [] => .error (.tooShort 0)
  | version :: rest =>
      let version ← textOf version
      match rest with
      | [] => .error (.tooShort 1)
      | archive :: rest =>
          let archive ← textOf archive
          match rest with
          | [] => .error (.tooShort 2)
          | installer :: _ => do
              let installer ← textOf installer
              .ok ⟨version, archive, installer⟩

def ofValue : Toml.Value → Except Toml.Fault Release
  | .table entries => readFields {} entries >>= Fields.complete
  | .dateTime => Fields.complete {}
  | .array elements => ofElements elements
  | other => .error (.wrongShape other .record)

def listKey : String := "release"

/-- Reads the releases of a document. A document without a list has none. -/
def ofDocument (entries : List (String × Toml.Value)) : Except Toml.Fault (List Release) :=
  match entries.lookup listKey with
  | none => .ok []
  | some (.array elements) => elements.mapM ofValue
  | some other => .error (.wrongShape other .sequence)

def parseAll (content : String) : Except Toml.Fault (List Release) :=
  match Toml.document? content with
  | none => .error .malformed
  | some entries => ofDocument entries

/-! ## Writing releases -/

def content (release : Release) : Field → String
  | .version => release.version
  | .archive => release.archive
  | .installer => release.installer

def fieldLine (release : Release) (field : Field) : List Char :=
  field.name.toList ++ " = \"".toList ++ Toml.basicEscaped (release.content field).toList ++
    "\"\n".toList

def written (release : Release) (order : List Field) : List Char :=
  "[[release]]\n".toList ++ order.flatMap release.fieldLine

def listed (releases : List (Release × List Field)) : String :=
  String.ofList (releases.flatMap fun entry => entry.1.written entry.2)

end Release

end Provision
