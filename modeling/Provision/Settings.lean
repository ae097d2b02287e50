/-!
# Fixed settings

The names of environment variables, and the names, places and addresses that plans are made of.
-/

namespace Provision

/-! ## Environment variables -/

namespace Variable

def channel : String := "CHANNEL"

def libraryVersion : String := "H5_VERSION"

def librarySource : String := "H5_SOURCE"

def managerRoot : String := "CONDA"

/-- When it is not empty, the build sees the requested version. -/
def pinVersion : String := "PIN_VERSION"

def searchPath : String := "PATH"

def libraryDirectory : String := "HDF5_DIR"

def pinnedVersion : String := "HDF5_VERSION"

def home : String := "HOME"

def logDirectives : String := "RUST_LOG"

def plainProxy : List String := ["HTTP_PROXY", "http_proxy"]

def secureProxy : List String := ["HTTPS_PROXY", "https_proxy"]

def commonProxy : List String := ["ALL_PROXY", "all_proxy"]

def proxyExemptions : List String := ["NO_PROXY", "no_proxy"]

/-- Set in programs that answer a request themselves. -/
def requestMethod : String := "REQUEST_METHOD"

/-- The variables that a run consults for itself; all others only reach the programs it starts. -/
def consulted : List String :=
  [channel, libraryVersion, librarySource, managerRoot, pinVersion, searchPath, home, logDirectives,
    requestMethod] ++ plainProxy ++ secureProxy ++ commonProxy ++ proxyExemptions

end Variable

namespace Settings

def hostTriple : String := "x86_64-pc-windows-msvc"

def toolchainDirectory : String := "C:\\Rust"

def archiveFile : String := "hdf5.zip"

def managedEnvironment : String := "testenv"

def managedPackage : String := "hdf5"

def libraryDisplayName : String := "HDF5"

/-- The directories of a managed environment that are put in front of the search path, one after the
other, so that the last comes first. -/
def managedSubdirectories : List String := ["Scripts", "Library\\bin", ""]

def searchPathSeparator : String := ":"

def toolchainServer : String := "https://static.rust-lang.org/dist"

def libraryServer : String := "https://support.hdfgroup.org/ftp/HDF5/prev-releases"

def programName : String := "hdf5-ci"

def programVersion : String := "0.1.0"

end Settings

end Provision
