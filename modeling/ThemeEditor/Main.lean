/-
# ThemeEditor.Main -- the program on a real machine

A run is a value, so all that is done here is to give it what it starts from and
to do what it leaves.  Of the real disk it is shown the paths that it looks at.
Of the network it is first shown nothing; whenever it asks a place, that place is
asked in truth and the run is made again with the answer.
-/
import ThemeEditor.Program.Places
import ThemeEditor.Web.Message
import Std.Async.DNS
import Std.Async.TCP
import Std.Async.Timer
import Std.Internal.UV.System
import Std.Time

namespace ThemeEditor

set_option autoImplicit false

open Std.Async (Async)
open Std.Net (IPAddr SocketAddress)

namespace Machine

/-! ## The disk -/

/-- What lies at a route of the real disk. -/
def entryAt (route : Disk.Route) : IO (Option Disk.Entry) := do
  try
    return some (.file (← IO.FS.readBinFile (Config.pathOf route)))
  catch e =>
    match e with
    | .inappropriateType .. => return some .directory
    | _ => return none

/-- The route that a path means, read by its names alone. -/
def routeOf (d : Disk) (path : String) : Disk.Route :=
  let start := if Disk.isAbsolute path then [] else d.current
  ((Disk.pieces path).filter fun p => !Disk.isStay p).foldl
    (fun route name => if name = ".." then route.dropLast else route ++ [name]) start

/-- Shows a disk what really lies at a route and above it. -/
def showRoute (d : Disk) (route : Disk.Route) : IO Disk := do
  let mut d := d
  for count in List.range route.length do
    let above := route.take (count + 1)
    match d.node? above with
    | some .directory => continue
    | some (.file _) => return d
    | none =>
        match ← entryAt above with
        | some .directory => d := d.put above .directory
        | some file => return d.put above file
        | none => return d
  return d

/-- Shows a disk what really lies at some paths. -/
def showPaths (d : Disk) (paths : List String) : IO Disk :=
  paths.foldlM (fun d path => showRoute d (routeOf d path)) d

/-- Makes the real disk what a run left of it. -/
def keep (before after : Disk) : IO Unit := do
  let changed := after.entries.filter fun e => before.node? e.1 ≠ some e.2
  for (route, entry) in changed.mergeSort fun a b => decide (a.1.length ≤ b.1.length) do
    let path := Config.pathOf route
    match entry with
    | .directory => IO.FS.createDirAll path
    | .file bytes => IO.FS.writeBinFile path bytes

/-! ## The network -/

/-- The numbers of a host. -/
def numbersOf (host : Web.Host) : IO (List IPAddr) := do
  let name := match host with
    | .long pieces => Web.Host.longText pieces
    | host => host.text
  return (← (Std.Async.DNS.getAddrInfo name "").block).toList

/-- A socket at a host. -/
def socketAddress (number : UInt16) : IPAddr → SocketAddress
  | .v4 addr => .v4 ⟨addr, number⟩
  | .v6 addr => .v6 ⟨addr, number⟩

/-- Everything that comes through a connection. -/
partial def receive (client : Std.Async.TCP.Socket.Client) (got : ByteArray) : Async ByteArray := do
  match ← client.recv? 65536 with
  | some bytes => receive client (got ++ bytes)
  | none => return got

/-- Sends a request through a connection and reads the response. -/
def talk (client : Std.Async.TCP.Socket.Client) (place : Web.Address) : Async Web.Reaction := do
  try
    client.send place.requestBytes
    let bytes ← receive client .empty
    return match Web.Response.read bytes with
      | some r => .response r
      | none => .silent
  catch _ => return .silent

/-- Connects to the first of some hosts that takes connections. -/
def connect (number : UInt16) : List IPAddr → Async (Option Std.Async.TCP.Socket.Client)
  | [] => return none
  | host :: hosts => do
      let client ← Std.Async.TCP.Socket.Client.mk
      try
        client.connect (socketAddress number host)
        return some client
      catch _ => connect number hosts

/-- Asks a socket of a host for a place. -/
def askHost (host : Web.Host) (number : UInt16) (place : Web.Address) : Async Web.Reaction := do
  try
    match ← connect number (← numbersOf host) with
    | some client => talk client place
    | none => return .refused
  catch _ => return .refused

/-- Asks a place, for a number of seconds at most.  Only places that are asked in plain
text can be reached. -/
def ask (patience : Option UInt64) (place : Web.Address) : IO Web.Reaction := do
  match place.scheme, place.host with
  | "http", some host =>
      let asked := askHost host (place.portNumber.getD 80) place
      match patience with
      | none => asked.block
      | some seconds =>
          let late : Async Web.Reaction := do
            Std.Async.sleep (.ofNat (seconds.toNat * 1000))
            return .silent
          (Async.race asked late).block
  | _, _ => return .refused

/-- The network as far as it was asked. -/
def network (known : List Web.Reaction) : Web.Network := fun n _ =>
  known.getD n .refused

/-! ## Runs -/

/-- How often a run is shown more of the disk before it is made. -/
def looks : Nat := 4

/-- Shows a run what it looks at on the disk. -/
def prepare (s : Program.Start) : Nat → IO Program.Start
  | 0 => return s
  | count + 1 => do
      prepare { s with disk := ← showPaths s.disk (Program.places s) } count

/-- Makes a run, asking the places that it asks. -/
def perform (s : Program.Start) : Nat → List Web.Reaction → IO Program.Outcome
  | 0, known => return Program.run { s with network := network known }
  | count + 1, known => do
      let outcome := Program.run { s with network := network known }
      match outcome.hops[known.length]? with
      | none => return outcome
      | some hop => perform s count (known ++ [← ask outcome.patience hop.place])

/-- The time of day, as a log shows it. -/
def timeText : IO String := do
  return (← Std.Time.PlainDateTime.now).format "uuuu-MM-dd HH:mm:ss"

/-- The number that some bytes are. -/
def numberOf (bytes : ByteArray) : UInt64 :=
  bytes.toList.foldl (fun n b => n * 256 + b.toUInt64) 0

/-- What a run on this machine starts from. -/
def start (arguments : List String) : IO Program.Start := do
  let found ← Std.Internal.UV.System.osEnviron
  let current := toString (← IO.currentDir)
  return {
    arguments
    environment := ⟨found.toList⟩
    disk := .blank ((Disk.pieces current).filter fun p => !Disk.isStay p)
    network := network []
    words := .ofSeed #[] (numberOf (← IO.getRandomBytes 8))
    time := ← timeText }

end Machine

end ThemeEditor

/-- Runs the program. -/
def main (arguments : List String) : IO UInt32 := do
  let s ← ThemeEditor.Machine.prepare (← ThemeEditor.Machine.start arguments)
    ThemeEditor.Machine.looks
  let outcome ← ThemeEditor.Machine.perform s (ThemeEditor.Web.Exchange.maxRedirects + 1) []
  ThemeEditor.Machine.keep s.disk outcome.disk
  IO.print outcome.output
  IO.eprint outcome.errors
  return outcome.code.toUInt32
