import Provision.Log.Directive

/-!
# What is logged

Of the directives that concern an event, the one that describes it most closely decides whether it is
logged. The default level counts where no directive can be read.
-/

namespace Provision.Log

structure Filter where
  directives : List Directive
  deriving DecidableEq, Repr

namespace Filter

/-- The directive that decides on an event: the last of those that describe it most closely. -/
def deciding (filter : Filter) (event : Event) : Option Directive :=
  (filter.directives.filter (·.concerns event)).foldl
    (fun best directive =>
      match best with
      | none => some directive
      | some other => if other.isLooser directive then some directive else best)
    none

def admits (filter : Filter) (event : Event) : Bool :=
  match filter.deciding event with
  | none => false
  | some directive => event.level.verbosity ≤ directive.verbosity

def written (directives : String) : List String :=
  (directives.splitToList (· = ',')).filter fun part => !part.isEmpty

def readable (directives : String) : List Directive :=
  (written directives).filterMap fun part => (Directive.read part.toList).toOption

/-- The filter for written directives. The default level counts if no directive can be read; those that
speak of spans concern no event. -/
def ofText (directives : String) (level : Level) : Filter :=
  let read := readable directives
  if read.isEmpty then ⟨[{ verbosity := level.verbosity }]⟩ else ⟨read.filter (·.isStatic)⟩

def complaint (part : String) : String :=
  match Directive.read part.toList with
  | .ok _ => ""
  | .error fault => s!"ignoring \x60{part}\x60: {fault.text}\n"

def complaints (directives : String) : String :=
  String.join ((written directives).map complaint)

end Filter

end Provision.Log
