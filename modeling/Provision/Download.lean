import Provision.Sha256
import Provision.World

/-!
# Downloads

A download asks for a resource, makes the directories of its destination, and writes the chunks of the
body as they come, with a digest of all of them. A bar that is shown meanwhile is told of each chunk.
Whatever fails, the file at the destination is removed.
-/

namespace Provision.Download

structure Saved where
  path : String
  size : Nat
  digest : String
  deriving DecidableEq, Repr

/-- A file that is being written: a write that was refused is reported by the next one or at the end. -/
structure Saving where
  files : Host.FileTree
  hasher : Sha256.Hasher := {}
  size : Nat := 0
  pending : Option Host.Refusal := none
  failed : Option Host.Refusal := none
  progress : List (Nat × Nat) := []

/-- Writes a chunk, unless a write has been refused, and reports how much of the total there is. Nothing
is written of a chunk without bytes, so it does not meet an earlier refusal. -/
def saveChunk (limit : Option Nat) (place : Host.Place) (total : Nat) (saving : Saving)
    (chunk : ByteArray) : Saving :=
  let size := saving.size + chunk.size
  let counted : Saving :=
    { saving with
        size
        hasher := saving.hasher.update chunk
        progress := saving.progress ++ [(size, total)] }
  match saving.failed, saving.pending with
  | some _, _ => saving
  | none, some refusal =>
      if chunk.isEmpty then counted else { saving with failed := some refusal }
  | none, none =>
      let (refused, files) := saving.files.append limit place chunk
      { counted with files, pending := refused }

def saveChunks (limit : Option Nat) (place : Host.Place) (total : Nat) (saving : Saving)
    (chunks : List ByteArray) : Saving :=
  chunks.foldl (saveChunk limit place total) saving

def conclude (url destination : String) (complete : Bool) (saving : Saving) :
    Except DownloadError Saved :=
  match saving.failed with
  | some refusal => .error (.file destination refusal.text)
  | none =>
      if complete then
        match saving.pending with
        | some refusal => .error (.file destination refusal.text)
        | none =>
            .ok { path := destination, size := saving.size, digest := saving.hasher.finish.text }
      else .error (.network url Http.brokenBody)

def makeParents (here : Host.Place) (destination : Bytes) (files : Host.FileTree) :
    Option DownloadError × Host.FileTree :=
  match Host.Path.parent? destination with
  | none => (none, files)
  | some parent =>
      if parent = [] then (none, files)
      else
        match Host.FileTree.makeDirectories here (parent.length + 1) parent files with
        | (none, made) => (none, made)
        | (some refusal, made) => (some (.file (Utf8.decodeLossy parent) refusal.text), made)

/-- Saves the body of an answer. The progress is that of a body that was saved. -/
def save (machine : Machine) (url destination : String) (delivery : Http.Delivery)
    (files : Host.FileTree) : (Except DownloadError Saved × List (Nat × Nat)) × Host.FileTree :=
  let here := machine.surroundings.directory
  let path := Utf8.encode destination
  match makeParents here path files with
  | (some error, made) => ((.error error, []), made)
  | (none, made) =>
      match made.openForWriting here path with
      | .error refusal => ((.error (.file destination refusal.text), []), made)
      | .ok (place, opened) =>
          let saving := saveChunks machine.fileLimit place (delivery.announced.getD 0)
            { files := opened } delivery.chunks
          ((conclude url destination delivery.complete saving, saving.progress), saving.files)

def savedRemark (saved : Saved) : Log.Event where
  level := .debug
  origin := .download
  message := s!"downloaded {saved.size} bytes to {saved.path} (sha256 {saved.digest})"

def connectionRemarks (connection : Http.Connection) : List Log.Event :=
  let remark (origin : Log.Origin) (message : String) : Log.Event :=
    { level := .debug, origin, message }
  let purpose := connection.purpose
  let proxied := connection.proxy.map fun proxy =>
    remark .connection s!"proxy({proxy}) intercepts '{purpose}'"
  let begun := connection.place.map fun place => remark .socket s!"connecting to {place}"
  let made := connection.place.map fun place => remark .socket s!"connected to {place}"
  remark .connection s!"starting new connection: {purpose}" ::
    (proxied.toList ++ begun.toList ++ if connection.isMade then made.toList else [])

/-- What a download answers: the saved file or an error, and the progress that was reported. -/
structure Report where
  result : Except DownloadError Saved
  progress : List (Nat × Nat) := []

def abandon (machine : Machine) (destination : String) (error : DownloadError)
    (progress : List (Nat × Nat)) (world : World) : Report × World :=
  ({ result := .error error, progress },
   { world with
      files := world.files.unlink machine.surroundings.directory (Utf8.encode destination) })

def receive (machine : Machine) (url destination : String) (exchange : Http.Exchange)
    (world : World) : Report × World :=
  let asked := { world with requests := world.requests ++ exchange.requests }.revealAll machine
    (exchange.connections.flatMap connectionRemarks)
  match exchange.result with
  | .error error => abandon machine destination (.network url error.text) [] asked
  | .ok answer =>
      if Http.Status.isSuccess answer.head.status then
        let ((result, progress), files) := save machine url destination answer.delivery asked.files
        let written := progress.foldl (World.advanceBar machine) { asked with files }
        match result with
        | .error error => abandon machine destination error progress written
        | .ok saved =>
            ({ result := .ok saved, progress }, written.remark machine (savedRemark saved))
      else
        abandon machine destination
          (.network url s!"HTTP {Http.Status.text answer.head.status}") [] asked

def run (machine : Machine) (url destination : String) (world : World) : Report × World :=
  receive machine url destination (Http.Client.fetch machine.network url) world

end Provision.Download
