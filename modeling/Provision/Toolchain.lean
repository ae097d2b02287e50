import Provision.Log.Event
import Provision.Plan.Basic

/-!
# Installing the toolchain

The installer of the requested channel is fetched and run without questions; then both tools are asked
for their versions, which fails unless they were installed.
-/

namespace Provision.Toolchain

def installerName (channel : String) : String :=
  s!"rust-{channel}-{Settings.hostTriple}.msi"

def installerUrl (channel : String) : String :=
  s!"{Settings.toolchainServer}/{installerName channel}"

def installedTool (tool : String) : String :=
  Settings.toolchainDirectory ++ "\\bin\\" ++ tool

def installCommand (channel : String) : Command :=
  ({ program := "msiexec" } : Command)
    |>.withArguments ["/i", installerName channel]
    |>.argument s!"INSTALLDIR={Settings.toolchainDirectory}"
    |>.argument "/qn"
    |>.asInstaller

def versionCommand (tool : String) : Command :=
  ({ program := installedTool tool } : Command).argument "-vV"

def planFor (channel : String) : Plan :=
  ({ title := s!"Installing Rust ({channel})" } : Plan)
    |>.download (installerUrl channel) (installerName channel)
    |>.run (installCommand channel)
    |>.run (versionCommand "rustc")
    |>.run (versionCommand "cargo")

def plan (snapshot : Snapshot) : Except ProvisionError Plan :=
  (snapshot.require Variable.channel).map planFor

def planRemark (channel : String) : Log.Event where
  level := .info
  origin := .toolchain
  message := "planning Rust toolchain installation"
  values := [("channel", Text.quoted channel)]

def remarks (snapshot : Snapshot) : List Log.Event :=
  (snapshot.get? Variable.channel).toList.map planRemark

end Provision.Toolchain
