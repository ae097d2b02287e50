import Provision.Text.Quoted

/-!
# Diagnostic events

What a part of the program has to say about its work. An event has a level, the part it comes from, a
message and named values; `Event.line` is how the log shows it.
-/

namespace Provision.Log

inductive Level where
  | trace
  | debug
  | info
  | warn
  | error
  deriving DecidableEq, Repr

namespace Level

def name : Level → String
  | .trace => "TRACE"
  | .debug => "DEBUG"
  | .info => "INFO"
  | .warn => "WARN"
  | .error => "ERROR"

/-- How much has to be logged for a level to be logged, from one. -/
def verbosity : Level → Nat
  | .error => 1
  | .warn => 2
  | .info => 3
  | .debug => 4
  | .trace => 5

end Level

/-- The part of the program that an event comes from, or the layer of the network below it. -/
inductive Origin where
  | plan
  | toolchain
  | library
  | installed
  | testRun
  | registry
  | launch
  | download
  | runner
  | connection
  | socket
  deriving DecidableEq, Repr

def Origin.target : Origin → String
  | .plan => "hdf5_ci::core::plan"
  | .toolchain => "hdf5_ci::core::toolchain"
  | .library => "hdf5_ci::core::library"
  | .installed => "hdf5_ci::core::lookup"
  | .testRun => "hdf5_ci::core::run_tests"
  | .registry => "hdf5_ci::infra::registry"
  | .launch => "hdf5_ci::infra::process"
  | .download => "hdf5_ci::infra::download"
  | .runner => "hdf5_ci::cli::runner"
  | .connection => "reqwest::connect"
  | .socket => "hyper_util::client::legacy::connect::http"

/-- One entry of the log. The values are texts as they are shown. -/
structure Event where
  level : Level
  origin : Origin
  message : String
  values : List (String × String) := []
  deriving DecidableEq

/-- One character of a message. Controls that a terminal acts on are written by their numbers. -/
def safeChar (c : Char) : String :=
  match c with
  | '\x1b' => "\\x1b"
  | '\x07' => "\\x07"
  | '\x08' => "\\x08"
  | '\x0c' => "\\x0c"
  | '\x7f' => "\\x7f"
  | _ =>
      if 0x80 ≤ c.toNat ∧ c.toNat ≤ 0x9F then "\\u\x7b" ++ Text.hexadecimal c.toNat ++ "\x7d"
      else c.toString

namespace Event

/-- The names of what an event has: its message and its values, and for connections where the event
comes from. -/
def fields (event : Event) : List String :=
  let places :=
    if event.origin = .connection then
      ["log.target", "log.module_path", "log.file", "log.line"]
    else []
  "message" :: event.values.map Prod.fst ++ places

def text (event : Event) : String :=
  String.join (event.message.toList.map safeChar) ++
    String.join (event.values.map fun value => s!" {value.1}={value.2}")

/-- The event with its level in front, and the place it comes from if that is to be told. -/
def leveled (event : Event) (place : String := "") : String :=
  s!"{event.level.name} {place}{event.text}"

def line (event : Event) : String :=
  event.leveled s!"{event.origin.target}: " ++ "\n"

end Event

end Provision.Log
