import Provision.Console
import Provision.Host.Launch
import Provision.Http.Client
import Provision.Log.Filter

/-!
# The world of a run

A run takes place on a machine, which stays as it is, and in a world, which changes: files come and go,
text is printed and logged, requests are sent and programs are started.
-/

namespace Provision

/-- A terminal on which bars are drawn. What is drawn of a bar depends on the clock and on the size of the
terminal as well, so nothing is said about it here. -/
structure Terminal where
  drawn : Bar → ByteArray

/-- What surrounds a run and does not change: the environment and the working directory, who can be
reached, how large files may grow, the terminal that the error stream leads to, if it leads to one, and
what is shown there of the log. -/
structure Machine where
  surroundings : Host.Surroundings
  server : Option Http.Server := none
  peers : List Http.Peer := []
  fileLimit : Option Nat := none
  terminal : Option Terminal := none
  filter : Option Log.Filter := none

namespace Machine

def textOf (machine : Machine) (names : List String) : String :=
  (names.findSome? fun name =>
    (machine.surroundings.value? name).bind Utf8.decode?).getD ""

/-- The proxies that the environment names. A program that answers requests itself uses none. -/
def proxies (machine : Machine) : Http.Proxies :=
  if (machine.surroundings.value? Variable.requestMethod).isSome then {}
  else
    .ofTexts (machine.textOf Variable.plainProxy) (machine.textOf Variable.secureProxy)
      (machine.textOf Variable.commonProxy) (machine.textOf Variable.proxyExemptions)

def network (machine : Machine) : Http.Network where
  server := machine.server
  others := machine.peers
  proxies := machine.proxies

end Machine

/-- A piece of what is written to the output stream: a line about the run, the reply to a request for
something else than a run, or what a program that was started has written. -/
inductive Written where
  | line (line : Console.Line)
  | reply (text : String)
  | ofProgram (bytes : Bytes)
  deriving DecidableEq

def Written.bytes : Written → ByteArray
  | .line shown => shown.text.toByteArray
  | .reply text => text.toByteArray
  | .ofProgram bytes => ⟨bytes.toArray⟩

structure World where
  files : Host.FileTree
  written : List Written := []
  errorOutput : ByteArray := .empty
  bar : Option Bar := none
  log : List Log.Event := []
  requests : List Http.Request := []
  launches : List Host.Launch := []

namespace World

def output (world : World) : ByteArray :=
  world.written.foldl (fun received piece => received ++ piece.bytes) .empty

def write (world : World) (piece : Written) : World :=
  { world with written := world.written ++ [piece] }

def printError (world : World) (text : String) : World :=
  { world with errorOutput := world.errorOutput ++ text.toByteArray }

def showBar (world : World) (bar : Option Bar) : World :=
  { world with bar }

/-- Draws the bar on the error stream, if there is one and the stream leads to a terminal. -/
def drawBar (machine : Machine) (world : World) : World :=
  match machine.terminal, world.bar with
  | some terminal, some bar =>
      { world with errorOutput := world.errorOutput ++ terminal.drawn bar }
  | _, _ => world

def advanceBar (machine : Machine) (world : World) (report : Nat × Nat) : World :=
  (world.showBar (world.bar.map (·.advance report))).drawBar machine

def clearBar (machine : Machine) (world : World) : World :=
  ((world.showBar (world.bar.map Bar.clear)).drawBar machine).showBar none

def display (world : World) (console : Console) (line : Console.Line) : World :=
  if console.quiet then world else world.write (.line line)

def reveal (machine : Machine) (event : Log.Event) (world : World) : World :=
  match machine.filter with
  | some filter => if filter.admits event then world.printError event.line else world
  | none => world

def remark (machine : Machine) (event : Log.Event) (world : World) : World :=
  { world with log := world.log ++ [event] }.reveal machine event

/-- Reveals events that are not the program's own, and are not logged. -/
def revealAll (machine : Machine) (events : List Log.Event) (world : World) : World :=
  events.foldl (fun world event => world.reveal machine event) world

def remarkAll (machine : Machine) (events : List Log.Event) (world : World) : World :=
  events.foldl (fun world event => world.remark machine event) world

end World

end Provision
