import Std.Async.TCP
import TableScript.CommandLine.Run
import TableScript.Service.Route
import TableScript.Storage.Database

set_option autoImplicit false

namespace TableScript.CommandLine

open Std.Async.TCP.Socket

def refusal (e : IO.Error) : OsError :=
  match e with
  | .noFileOrDirectory _ _ _ => .noSuchFile
  | .permissionDenied _ code reason | .inappropriateType _ code reason
  | .noSuchThing _ code reason | .resourceExhausted _ code reason => worded code reason
  | .resourceBusy code reason | .unsupportedOperation code reason
  | .otherError code reason => worded code reason
  | _ => ⟨5, e.toString⟩
where
  worded (code : UInt32) (reason : String) : OsError :=
    let n := code.toInt32.toInt.natAbs
    let known := [OsError.permissionDenied, .notADirectory, .addressInUse, .addressNotAvailable]
    (known.find? fun e => e.code == n).getD ⟨n, reason⟩

def readText (file : String) : IO (Except ReadError String) := do
  try
    let bytes ← IO.FS.readBinFile file
    match String.fromUTF8? bytes with
    | some text => return .ok text
    | none => return .error .notText
  catch e => return .error (.refused (refusal e))

def environment : IO (List (String × String)) :=
  [Setting.host, .port].filterMapM fun setting => do
    return (← IO.getEnv setting.envName).map (setting.envName, ·)

def toSocket (e : Endpoint) : Std.Net.SocketAddress :=
  let port := e.port.toUInt16
  match e.ip with
  | .v4 octets => .v4 ⟨⟨Vector.ofFn fun i => (octets.getD i.val 0).toUInt8⟩, port⟩
  | .v6 groups => .v6 ⟨⟨Vector.ofFn fun i => (groups.getD i.val 0).toUInt16⟩, port⟩

def portOf : Std.Net.SocketAddress → Nat
  | .v4 address => address.port.toNat
  | .v6 address => address.port.toNat

def listenAt (e : Endpoint) : IO (Except OsError (Endpoint × Server)) := do
  try
    let server ← Server.mk
    server.bind (toSocket e)
    server.listen 128
    return .ok ({ e with port := portOf (← server.getSockName) }, server)
  catch error => return .error (refusal error)

def answered (answers : List (Except OsError (Endpoint × Server))) : Host where
  bind inUse e :=
    match answers[inUse.length]? with
    | some (.ok bound) => .ok bound.1
    | some (.error refused) => .error refused
    | none => .ok e
  connect _ := .ok ()

/--
Runs a command as often as it asks for one more endpoint. All runs agree up to that point, and a
refusal ends the program, so the last run is what happens.
-/
partial def settle (command : Host → Outcome .inMemory) (answers : List (Except OsError (Endpoint × Server))) :
    IO (Outcome .inMemory × List (Except OsError (Endpoint × Server))) := do
  let outcome := command (answered answers)
  match outcome.session.listening with
  | service :: _ =>
    if outcome.session.listening.length ≤ answers.length then return (outcome, answers)
    settle command (answers ++ [← listenAt service.endpoint])
  | [] => return (outcome, answers)

partial def readHead (client : Client) (head : ByteArray) : IO ByteArray := do
  if Request.isComplete (head.toList.map fun b => Char.ofNat b.toNat) then return head
  match ← (client.recv? 4096).block with
  | some bytes => readHead client (head ++ bytes)
  | none => return head

def handle (answer : String → String → Response) (client : Client) : IO Unit := do
  let head := String.fromUTF8? (← readHead client .empty)
  let text :=
    match head.bind fun s => Request.ofHead? s.toList with
    | some r => (answer r.method r.url).wireText r.method
    | none => Response.malformed.wireText ""
  (client.send text.toUTF8).block
  client.shutdown.block

partial def serve (answer : String → String → Response) (server : Server) : IO Unit := do
  let client ← server.accept.block
  try handle answer client catch _ => pure ()
  serve answer server

def writeLine (line : Line) : IO Unit :=
  match line.channel with
  | .output => IO.println line.text
  | .error => IO.eprintln line.text

def serveAll (session : Session .inMemory) (answers : List (Except OsError (Endpoint × Server))) : IO Unit := do
  let tasks ← (session.listening.reverse.zip answers).filterMapM fun (service, answer) =>
    match answer with
    | .ok (_, server) => some <$> IO.asTask (serve (session.answer service) server) .dedicated
    | .error _ => pure none
  for task in tasks do
    let _ ← IO.wait task

def start (args : List String) : IO UInt32 := do
  let env ← environment
  let text ←
    match Command.ofArguments args env with
    | .ok (.run options) => readText options.file
    | _ => pure (.error .notText)
  let (outcome, answers) ← settle (fun host => run host (fun _ => text) env args) []
  outcome.lines.forM writeLine
  (← IO.getStdout).flush
  if outcome.exitCode = 0 then serveAll outcome.session answers
  return outcome.exitCode.toUInt32

end TableScript.CommandLine

def main (args : List String) : IO UInt32 := TableScript.CommandLine.start args
