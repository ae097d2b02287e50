import Provision.Log.Event
import Provision.Version

/-!
# Installed programs

The host may list its installed programs. Of those with a given name the one with the highest version
is used, an unreadable version counts below every other, and among equals the last one counts.
-/

namespace Provision

/-- An installed program. The list keeps where it is as a text. -/
structure Installation where
  displayName : String
  displayVersion : Option String := none
  path : String
  deriving DecidableEq, Repr

namespace Installation

def version (installation : Installation) : Option Version :=
  installation.displayVersion.bind Version.parse?

def binDirectory (installation : Installation) : String :=
  if installation.path.isEmpty || installation.path.endsWith "/" then installation.path ++ "bin"
  else installation.path ++ "/bin"

/-- The better of the best so far and a program that is listed after it. -/
def better (best : Option Installation) (later : Installation) : Option Installation :=
  match best with
  | none => some later
  | some earlier =>
      if (compare (Version.rank later.version) (Version.rank earlier.version)).isLT then best
      else some later

def select (listed : List Installation) (name : String) : Option Installation :=
  (listed.filter fun entry => entry.displayName = name).foldl better none

end Installation

structure Lookup where
  find : String → Option Installation
  remarks : String → List Log.Event

namespace Lookup

def choice (listed : List Installation) (name : String) : List Log.Event :=
  let found := (listed.filter fun entry => entry.displayName = name).length
  if 1 < found then
    [{ level := .debug, origin := .installed
       message := s!"found {found} installations of {name}, selecting the latest" }]
  else []

def ofList (listed : List Installation) : Lookup where
  find := Installation.select listed
  remarks := choice listed

def registry : Lookup where
  find _ := none
  remarks _ :=
    [ { level := .warn, origin := .registry
        message := "installed-programs registry is only available on Windows" },
      { level := .debug, origin := .registry, message := "scanned 0 installed program(s)" } ]

end Lookup

end Provision
