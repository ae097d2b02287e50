import Provision.Log.Event
import Provision.Settings

/-!
# What the user sees

The lines that the program prints about its work, and how much it prints and logs. In quiet mode it
prints nothing of this.
-/

namespace Provision

structure Console where
  quiet : Bool := false
  verbosity : Nat := 0
  deriving DecidableEq, Repr

namespace Console

def level (console : Console) : Log.Level :=
  match console.verbosity with
  | 0 => .warn
  | 1 => .info
  | 2 => .debug
  | _ => .trace

def info (message : String) : String := message ++ "\n"

def success (message : String) : String := "✓ " ++ message ++ "\n"

def detail (message : String) : String := "    " ++ message ++ "\n"

def command (commandText : String) : String := "\n> " ++ commandText ++ "\n"

def download (url : String) : String := "\nDownloading: " ++ url ++ "\n"

def shown (console : Console) (printed : String) : String :=
  if console.quiet then "" else printed

/-- A line about a run: its title, what it changes for its commands, its steps and their destinations as
they come, and its end. -/
inductive Line where
  | title (title : String)
  | setting (name value : String)
  | prepending (directory : String)
  | searchPath (path : String)
  | download (url : String)
  | destination (path : String)
  | command (commandText : String)
  | rehearsed (steps : Nat)
  | completed (steps : Nat)
  deriving DecidableEq, Repr

def Line.text : Line → String
  | .title words => info s!"{words}..."
  | .setting name value => info s!"\nSetting {name} to {value}..."
  | .prepending directory => info s!"\nPrepending {directory} to %{Variable.searchPath}%..."
  | .searchPath path => detail s!"{Variable.searchPath}={path}"
  | .download url => Console.download url
  | .destination path => detail s!"-> {path}"
  | .command commandText => Console.command commandText
  | .rehearsed steps => success s!"Dry run: {steps} step(s) planned"
  | .completed steps => success s!"{steps} step(s) completed"

end Console

/-! ## Bars -/

/-- The bar that shows how far a download is: how long it is, how much of it is filled, all reports that it
has been told, and whether it is to be taken away. -/
structure Bar where
  length : Nat
  position : Nat := 0
  reports : List (Nat × Nat) := []
  isCleared : Bool := false
  deriving DecidableEq, Repr

namespace Bar

/-- Takes in how many bytes have come and how many there will be, which is zero if it is not known. -/
def advance (bar : Bar) (report : Nat × Nat) : Bar :=
  { bar with
    length := if 0 < report.2 ∧ bar.length ≠ report.2 then report.2 else bar.length
    position := report.1
    reports := bar.reports ++ [report] }

def clear (bar : Bar) : Bar :=
  { bar with isCleared := true }

end Bar

namespace Console

def barLength (console : Console) (total : Nat) : Option Nat :=
  if console.quiet then none else some total

/-- A new bar. In quiet mode it is hidden, and then there is none to be drawn. -/
def bar (console : Console) (total : Nat) : Option Bar :=
  (console.barLength total).map ({ length := · })

end Console

end Provision
