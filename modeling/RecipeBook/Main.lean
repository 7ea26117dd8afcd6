import RecipeBook.Cli
import RecipeBook.Web.Router
import Std.Async.DNS
import Std.Async.TCP
import Std.Time.Zoned

/-!
# The program

Reaches the file system, the environment and the network for the command line and the site.
-/

namespace RecipeBook.Main

open Std.Async Std.Net

/-! ## Files -/

/-- The files and folders below a folder. What cannot be read and what is neither is left out. -/
partial def entriesBelow (folder : String) (path : Path) : IO (List (Path × Content)) := do
  let mut entries := []
  for entry in ← (← IO.FS.realPath folder).readDir do
    let location := folder ++ "/" ++ entry.fileName
    let path := path ++ [entry.fileName]
    try
      match (← entry.path.symlinkMetadata).type with
      | .file => entries := entries ++ [(path, .file (← IO.FS.readBinFile location))]
      | .dir => entries := entries ++ (path, .folder) :: (← entriesBelow location path)
      | _ => pure ()
    catch _ => pure ()
  return entries

/-- When a file below a folder was last changed, in seconds from the beginning of 1970. -/
partial def lastChange (folder : String) : IO Nat := do
  let mut latest := 0
  for entry in ← (← IO.FS.realPath folder).readDir do
    try
      let data ← entry.path.symlinkMetadata
      let changed ← match data.type with
        | .dir => lastChange (folder ++ "/" ++ entry.fileName)
        | _ => pure data.modified.sec.toNat
      latest := max latest changed
    catch _ => pure ()
  return latest

def isFolder (location : String) : IO Bool := do
  try (← IO.FS.realPath location).isDir catch _ => return false

def readFolder (location : String) : IO (Option FileTree) := do
  if ← isFolder location then return some ⟨← entriesBelow location []⟩ else return none

def readFile (location : String) : IO (Except IoFault ByteArray) := do
  if ← isFolder location then return .error .isFolder
  try return .ok (← IO.FS.readBinFile location)
  catch
    | .noFileOrDirectory .. => return .error .notFound
    | e => return .error (.other (toString e))

/-- The file with variables that is nearest on the way up. -/
partial def findEnvFile (folder : String) : IO (Option ByteArray) := do
  match ← readFile (folder ++ "/.env") with
  | .ok bytes => return some bytes
  | .error _ =>
    match Text.splitAtLast '/' folder.toList with
    | some (above, _) => findEnvFile (.ofList above)
    | none => return none

def system : Cli.System IO where
  envFile := do findEnvFile (← IO.currentDir).toString
  readFile
  folder := readFolder

/-- The variables of the process. -/
def environment : IO EnvFile.Variables := do
  let text := (String.fromUTF8? (← IO.FS.readBinFile "/proc/self/environ")).getD ""
  return (Text.splitOn '\x00' text.toList).filterMap fun entry =>
    (Text.splitAtFirst (· == '=') entry).map fun (name, value) =>
      (String.ofList name, String.ofList value)

/-! ## Requests -/

/-- The store that is served and when it was loaded. -/
structure Served where
  store : Store
  loadedAt : String
  loadedMs : Nat

def Served.now (store : Store) : IO Served := do
  return ⟨store, (← Std.Time.DateTime.now).toISO8601String, ← IO.monoMsNow⟩

/-- Reloads the store when that is due. -/
def Served.refreshed (s : Served) (settings : Settings) (folder : Option FileTree) : IO Served := do
  match settings.reloadInterval with
  | none => return s
  | some seconds =>
    if (← IO.monoMsNow) < s.loadedMs + 1000 * seconds then return s
    match s.store.reload folder with
    | (store, .ok _) => Served.now store
    | (store, .error _) => return { s with store, loadedMs := ← IO.monoMsNow }

/-- The most bytes that the head of a request may have. -/
def maxHeadSize : Nat := 65536

/-- Receives the head of a request, up to the empty line behind it. -/
partial def receiveHead (client : TCP.Socket.Client) (received : ByteArray) :
    IO (Option String) := do
  match String.fromUTF8? received with
  | some head =>
    if (head.splitOn "\r\n\r\n").length > 1 then return some head
  | none => pure ()
  if received.size > maxHeadSize then return none
  match ← (client.recv? 4096).block with
  | some more => receiveHead client (received ++ more)
  | none => return none

/-- Answers the request of one client. -/
def answer (served : IO.Ref Served) (settings : Settings) (client : TCP.Socket.Client) :
    IO Unit := do
  let head ← receiveHead client .empty
  let folder ← readFolder settings.location
  let current ← (← served.get).refreshed settings folder
  served.set current
  let changedAt ← if folder.isSome then lastChange settings.location else pure 0
  let site : Web.Site := {
    library := current.store.current
    folder := .top (folder.getD .empty)
    changedAt
    settings
    loadedAt := current.loadedAt }
  let response :=
    match head.bind Web.Request.ofHead? with
    | some request =>
      let response := Web.respond site request
      if request.method = "HEAD" then response.withoutBody else response
    | none => .bare 400
  (client.send response.octets).block
  (client.shutdown).block

/-- The addresses of a host. -/
def addresses (host : String) : IO (List IPAddr) := do
  match IPv4Addr.ofString host with
  | some address => return [.v4 address]
  | none =>
    match IPv6Addr.ofString host with
    | some address => return [.v6 address]
    | none => return (← (DNS.getAddrInfo host "").block).toList

def socketAddress (portNumber : UInt16) : IPAddr → SocketAddress
  | .v4 address => .v4 ⟨address, portNumber⟩
  | .v6 address => .v6 ⟨address, portNumber⟩

def listener (settings : Settings) : IO TCP.Socket.Server := do
  let server ← TCP.Socket.Server.mk
  match ← addresses settings.host with
  | address :: _ =>
    server.bind (socketAddress settings.portNumber.toUInt16 address)
    server.listen 128
    return server
  | [] => throw (IO.userError "no address")

/-- Serves clients one after the other, without end. -/
partial def serveFrom (server : TCP.Socket.Server) (served : IO.Ref Served)
    (settings : Settings) : IO Unit := do
  let client ← (server.accept).block
  try answer served settings client catch _ => pure ()
  serveFrom server served settings

def serve (settings : Settings) (store : Store) : IO UInt32 := do
  let served ← IO.mkRef (← Served.now store)
  try
    serveFrom (← listener settings) served settings
    return 0
  catch e =>
    let place := settings.host ++ ":" ++ toString settings.portNumber
    (← IO.getStderr).putStr (Cli.errorText ("Failed to bind to " ++ place) [toString e])
    return 1

def run (args : List String) : IO UInt32 := do
  match ← Cli.run system (← environment) args with
  | .refused .help => IO.print Cli.usage; return 0
  | .refused .misuse => IO.eprint Cli.usage; return 2
  | .ended code output errors =>
    IO.print output
    IO.eprint errors
    return code.toUInt32
  | .serving settings store => serve settings store

end RecipeBook.Main

def main (args : List String) : IO UInt32 := RecipeBook.Main.run args
