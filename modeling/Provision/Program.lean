import Provision.Arguments.Parse
import Provision.Session

/-!
# The program

The program reads its arguments, performs the action they name, reports a failure, and ends with a
status.
-/

namespace Provision.Program

def console (invocation : Arguments.Invocation) : Console where
  quiet := invocation.quiet
  verbosity := invocation.verbosity

def directives (surroundings : Host.Surroundings) : String :=
  ((surroundings.value? Variable.logDirectives).bind Utf8.decode?).getD ""

def logging (machine : Machine) (console : Console) : Machine :=
  { machine with
    filter := some (Log.Filter.ofText (directives machine.surroundings) console.level) }

def decline (fault : Arguments.Fault) (world : World) : World :=
  match fault.reply? with
  | some reply => world.write (.reply reply)
  | none => world.printError (fault.headline ++ "\n")

def invoke (machine : Machine) (invocation : Arguments.Invocation) (world : World) : Int × World :=
  let console := console invocation
  let complained :=
    world.printError (Log.Filter.complaints (directives machine.surroundings))
  match Session.act (logging machine console) console invocation.action invocation.dryRun
      complained with
  | (.ok (), after) => (0, after)
  | (.error failure, after) => (failure.exitCode, after.printError failure.report)

def run (machine : Machine) (arguments : List String) (world : World) : Int × World :=
  match Arguments.parse arguments with
  | .error fault => (fault.exitCode, decline fault world)
  | .ok invocation => invoke machine invocation world

end Provision.Program
