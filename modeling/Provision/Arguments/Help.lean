import Provision.Settings

/-!
# Help

The two help texts of the program, and the line that names its version.
-/

namespace Provision.Arguments

def usage : String :=
  "CI provisioning helper: installs Rust and HDF5 on Windows agents and runs the test suite\n\n" ++
  "Usage: hdf5-ci [OPTIONS] <ACTION>\n\n"

def shortHelp : String :=
  usage ++
  "Arguments:\n" ++
  "  <ACTION>  Action to perform " ++
  "[possible values: install-toolchain, install-library, run-tests]\n\n" ++
  "Options:\n" ++
  "  -v, --verbose...  Enable verbose output (-v for info, -vv for debug)\n" ++
  "  -q, --quiet       Suppress all output except errors\n" ++
  "      --dry-run     Print the steps and environment changes without executing anything\n" ++
  "  -h, --help        Print help (see more with '--help')\n" ++
  "  -V, --version     Print version\n"

def longHelp : String :=
  usage ++
  "Arguments:\n" ++
  "  <ACTION>\n" ++
  "          Action to perform\n\n" ++
  "          Possible values:\n" ++
  "          - install-toolchain: " ++
  "Download and silently install the Rust toolchain for $CHANNEL\n" ++
  "          - install-library:   " ++
  "Install HDF5 $H5_VERSION from $H5_SOURCE (conda or msi)\n" ++
  "          - run-tests:         " ++
  "Build and test the workspace against the installed HDF5\n\n" ++
  "Options:\n" ++
  "  -v, --verbose...\n" ++
  "          Enable verbose output (-v for info, -vv for debug)\n\n" ++
  "  -q, --quiet\n" ++
  "          Suppress all output except errors\n\n" ++
  "      --dry-run\n" ++
  "          Print the steps and environment changes without executing anything\n\n" ++
  "  -h, --help\n" ++
  "          Print help (see a summary with '-h')\n\n" ++
  "  -V, --version\n" ++
  "          Print version\n"

def versionLine : String :=
  s!"{Settings.programName} {Settings.programVersion}\n"

end Provision.Arguments
