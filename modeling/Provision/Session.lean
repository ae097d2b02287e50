import Provision.Action
import Provision.Download
import Provision.Library.Install
import Provision.Plan.Execute
import Provision.TestRun
import Provision.Toolchain

/-!
# Sessions

A session performs an action: it plans, shows what it is going to do, and then performs the steps of
the plan, or in a dry run only shows them.
-/

namespace Provision.Session

/-! ## Commands -/

def missRemark (command : Command) (miss : Host.Search.Miss) : Log.Event where
  level := .debug
  origin := .launch
  message := s!"could not resolve '{command.program}' ({miss.text}), using it as given"

def resolve (machine : Machine) (command : Command) (world : World) : Bytes × World :=
  match Host.Search.find machine.surroundings world.files command with
  | .ok path => (path, world)
  | .error miss =>
      (Utf8.encode command.program, world.remark machine (missRemark command miss))

def spawnRemark (program : Bytes) (command : Command) : Log.Event where
  level := .debug
  origin := .launch
  message :=
    s!"spawning {Utf8.decodeLossy program} with {command.bindings.size} env override(s)"

def concludeCommand (command : Command) (code : Option Int) : Except ProvisionError Int :=
  match code with
  | some 0 => .ok 0
  | other => .error (command.failure other)

def runCommand (machine : Machine) (command : Command) (world : World) :
    Except ProvisionError Int × World :=
  let (program, resolved) := resolve machine command world
  let ready := resolved.remark machine (spawnRemark program command)
  let launch := Host.Launch.ofCommand machine.surroundings command program
  match launch.run ready.files machine.surroundings.directory with
  | .error refusal => (.error (.spawn command.program refusal.text), ready)
  | .ok (trace, files) =>
      (concludeCommand command trace.code,
       { ready with
          files
          written := ready.written ++ [.ofProgram trace.output]
          errorOutput := ready.errorOutput ++ ⟨trace.errorOutput.toArray⟩
          launches := ready.launches ++ [launch] })

/-! ## Steps -/

def savedRemark (saved : Download.Saved) : Log.Event where
  level := .info
  origin := .runner
  message := s!"saved {saved.path} ({saved.size} bytes, sha256 {saved.digest})"

def perform (machine : Machine) (console : Console) (step : Step) (world : World) :
    Except ProvisionError Outcome × World :=
  match step with
  | .download url destination =>
      let announced := world.display console (.download url)
      let (report, after) :=
        Download.run machine url destination (announced.showBar (console.bar 0))
      let cleared := after.clearBar machine
      match report.result with
      | .error error => (.error (.downloadFailure error), cleared)
      | .ok saved =>
          (.ok (.downloaded saved.path saved.size saved.digest),
           cleared.remark machine (savedRemark saved))
  | .run command =>
      let announced := world.display console (.command command.text)
      let (result, after) := runCommand machine command announced
      (result.map Outcome.exited, after)

def rehearse (console : Console) (step : Step) (world : World) : World :=
  match step with
  | .download url destination =>
      (world.display console (.download url)).display console (.destination destination)
  | .run command => world.display console (.command command.text)

def performer (machine : Machine) (console : Console) : Runner World where
  perform := perform machine console
  remark := World.remark machine

def rehearser (machine : Machine) (console : Console) : Runner World where
  perform step world := (.ok .planned, rehearse console step world)
  remark := World.remark machine

/-! ## Plans -/

def banner (plan : Plan) : List Console.Line :=
  .title plan.title ::
    (plan.delta.bindings.entries.map fun entry => .setting entry.1 entry.2) ++
    plan.delta.prepends.map .prepending

/-- The line that shows the search path of a dry run's commands, if the plan changes it. -/
def searchPathLine (plan : Plan) (snapshot : Snapshot) : List Console.Line :=
  match plan.delta.searchPath (snapshot.get? Variable.searchPath) with
  | some path => [.searchPath path]
  | none => []

def summary (dryRun : Bool) (steps : Nat) : Console.Line :=
  if dryRun then .rehearsed steps else .completed steps

def opening (plan : Plan) (snapshot : Snapshot) (dryRun : Bool) :
    List Console.Line :=
  banner plan ++ if dryRun then searchPathLine plan snapshot else []

def displayAll (console : Console) (lines : List Console.Line) (world : World) : World :=
  lines.foldl (fun world line => world.display console line) world

def runPlan (machine : Machine) (console : Console) (snapshot : Snapshot) (dryRun : Bool)
    (plan : Plan) (world : World) : Except ProvisionError (List Outcome) × World :=
  let shown := displayAll console (opening plan snapshot dryRun) world
  let runner := if dryRun then rehearser machine console else performer machine console
  match plan.execute runner shown with
  | (.error error, after) => (.error error, after)
  | (.ok outcomes, after) =>
      (.ok outcomes, after.display console (summary dryRun outcomes.length))

/-! ## Actions -/

def context : Action → String
  | .installToolchain => "Rust toolchain installation failed"
  | .installLibrary => "HDF5 installation failed"
  | .runTests => "Test run failed"

def planFor (snapshot : Snapshot) : Action → Except ProvisionError Plan × List Log.Event
  | .installToolchain => (Toolchain.plan snapshot, Toolchain.remarks snapshot)
  | .installLibrary =>
      match ReleaseTable.embedded with
      | .error error => (.error error, [])
      | .ok table => (Library.plan snapshot table, Library.remarks snapshot)
  | .runTests =>
      (TestRun.plan snapshot Lookup.registry.find, TestRun.remarks snapshot Lookup.registry)

def act (machine : Machine) (console : Console) (action : Action) (dryRun : Bool) (world : World) :
    Except Failure Unit × World :=
  let snapshot := Snapshot.capture machine.surroundings.bindings.entries
  let (planned, remarks) := planFor snapshot action
  let ready := world.remarkAll machine remarks
  match planned with
  | .error error => (.error { cause := error }, ready)
  | .ok plan =>
      match runPlan machine console snapshot dryRun plan ready with
      | (.error error, after) =>
          (.error (({ cause := error } : Failure).wrap (context action)), after)
      | (.ok _, after) => (.ok (), after)

end Provision.Session
