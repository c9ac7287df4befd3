import Std.Async.DNS
import Std.Async.TCP
import Blackjack.Program.Startup

/-!
# The console client

The outer layer: it reads the settings file, the terminal and the socket, tells the program what
happened and prints what the program prints. What the program does about it is decided there.
-/

namespace Blackjack.Terminal

open Std.Async Std.Net

/-- The socket of the current connection, and what it is busy with. -/
inductive Channel where
  | closed
  | dialing (attempt : AsyncTask TCP.Socket.Client)
  | opened (socket : TCP.Socket.Client) (reading : Option (AsyncTask (Option ByteArray)))
      (writing : Option (AsyncTask Unit × Nat))

/-- An address with the port of an endpoint. -/
def socketAddress (address : IPAddr) (port : UInt16) : SocketAddress :=
  match address with
  | .v4 addr => .v4 ⟨addr, port⟩
  | .v6 addr => .v6 ⟨addr, port⟩

/-- Lets the peer know that nothing more will come. -/
def Channel.hangUp (channel : Channel) : IO Unit := do
  match channel with
  | .opened socket _ _ =>
    try let _ ← socket.shutdown.toIO
    catch _ => return
  | .closed | .dialing _ => return

/-- Sets the options of a connected socket; the connection is used without those that fail. -/
def configure (socket : TCP.Socket.Client) (options : SocketOptions) : IO Unit := do
  try
    if options.noDelay then socket.noDelay
    if options.keepalive then
      let idle := options.keepaliveIdle.secs
      socket.keepAlive true (.ofNat idle) (Int.natCast_nonneg idle)
  catch e => IO.eprintln (toString e)

/-- Connects to the first address of an endpoint that accepts. -/
def dialEndpoint (endpoint : Endpoint) (options : SocketOptions) : Async TCP.Socket.Client := do
  let addresses ← DNS.getAddrInfo endpoint.host (toString endpoint.port.toNat)
  let mut failure := IO.userError "no address"
  for address in addresses do
    try
      let socket ← TCP.Socket.Client.mk
      socket.connect (socketAddress address endpoint.port)
      configure socket options
      return socket
    catch e => failure := e
  throw failure

/-- Whether a task has come to its end. -/
def isDone {α : Type} (task : AsyncTask α) : BaseIO Bool := do
  match ← task.getState with
  | .finished => return true
  | .waiting | .running => return false

/-- What an open socket has to tell the loop now: room for bytes, bytes, or nothing. -/
def pollOpened (socket : TCP.Socket.Client) (reading : Option (AsyncTask (Option ByteArray)))
    (writing : Option (AsyncTask Unit × Nat)) (config : TransportConfig)
    (worker : Worker Session Request) (now : Instant) : IO (Channel × Wakeup) := do
  let reading ← match reading with
    | some task => pure task
    | none => (socket.recv? config.readLimit.toUInt64).toIO
  let writing ← match writing, worker.link.outbound with
    | none, frame :: _ => pure (some (← (socket.send ⟨frame.toArray⟩).toIO, frame.length))
    | _, _ => pure writing
  if let some (task, count) := writing then
    if ← isDone task then
      try
        task.block
        return (.opened socket (some reading) none, .writable [.accepted count])
      catch e => return (.closed, .writable [.failed (toString e)])
  if ← isDone reading then
    try
      let bytes ← reading.block
      return (.opened socket none writing,
        .received ((bytes.map ByteArray.toList).getD []) fun _ => now)
    catch e => return (.closed, .unreadable (toString e))
  let channel := .opened socket (some reading) writing
  return (channel, if worker.ingress.isEmpty then .timer else .handedOver fun _ => now)

/-- What the socket has to tell the loop now. -/
def Channel.poll (channel : Channel) (config : TransportConfig) (worker : Worker Session Request)
    (now : Instant) : IO (Channel × Wakeup) := do
  match worker.phase, channel with
  | .undialed, _ =>
    channel.hangUp
    return (.closed, .timer)
  | .dialing, .dialing attempt =>
    if ← isDone attempt then
      try return (.opened (← attempt.block) none none, .connected)
      catch e => return (.closed, .unreachable (toString e))
    else return (channel, .timer)
  | .dialing, _ =>
    return (.dialing (← (dialEndpoint worker.endpoint config.socket).toIO), .timer)
  | .opened, .opened socket reading writing =>
    pollOpened socket reading writing config worker now
  | .opened, _ => return (.closed, .unreadable "not connected")

/-- A factor for the spread of a wait, drawn evenly. -/
def drawFactor (policy : BackoffPolicy) : IO Binary64 := do
  let bytes ← IO.getRandomBytes 8
  let drawn := bytes.toList.foldl (fun n byte => n * 256 + byte.toNat) 0
  return policy.factorAt (.ofRatio false (drawn >>> 11) (1 <<< 53))

/-- Carries out a move and prints what it prints. -/
def carryOut (program : Program) (move : Program.Move) : IO Program := do
  let moved := program.step move
  for text in moved.printed do IO.println text
  unless moved.printed.isEmpty do (← IO.getStdout).flush
  return moved.program

/-- How long the outer layer sleeps before it looks again, in milliseconds. -/
def pause : UInt32 := 10

/-- Goes on until the program has an exit code. -/
partial def go (typed : IO.Ref (List String)) (program : Program) (channel : Channel)
    (ticked : Instant) : IO UInt8 := do
  let mut program := program
  let mut channel := channel
  let mut ticked := ticked
  let mut busy := false
  for line in ← typed.modifyGet fun lines => (lines, []) do
    program ← carryOut program (.typed line)
  let now ← IO.monoNanosNow
  if let some worker := program.console.client.live? then
    let config := program.console.client.config
    let (next, wakeup) ← channel.poll config worker now
    channel := next
    busy := match wakeup with
      | .timer => false
      | _ => true
    if busy || worker.phase = .undialed || ticked + config.tickInterval ≤ now then
      program ← carryOut program (.advance now wakeup)
      ticked := now
  else
    channel.hangUp
    channel := .closed
  let factor ← drawFactor program.console.backoff.policy
  program ← carryOut program (.takeUp factor now)
  program ← carryOut program (.look factor now)
  match program.exitCode? with
  | some code => return code
  | none =>
    unless busy do IO.sleep pause
    go typed program channel ticked

/-- Takes typed lines until the input ends or is no text. -/
partial def readLines (input : IO.FS.Stream) (typed : IO.Ref (List String)) : IO Unit := do
  let line ← input.getLine
  unless line.isEmpty do
    typed.modify (· ++ [line])
    readLines input typed

/-- The settings directory as it is on disk; what cannot be read stands in the way of a file. -/
def snapshot (directory : String) : IO Folder := do
  let path := Settings.filePath []
  try
    let bytes ← IO.FS.readBinFile (directory ++ "/" ++ Settings.fileName)
    return ({} : Folder).put path (.file bytes.toList)
  catch e =>
    match e with
    | .noFileOrDirectory _ _ _ => return {}
    | _ => return ({} : Folder).put path .directory

/-- Writes the settings file if it is new. -/
def keep (directory : String) (before after : Folder) : IO Unit := do
  let path := Settings.filePath []
  unless before.holds path do
    if let .ok bytes := after.read path then
      try
        IO.FS.createDirAll directory
        IO.FS.writeBinFile (directory ++ "/" ++ Settings.fileName) ⟨bytes.toArray⟩
      catch e => IO.eprintln (toString e)

/-- Runs the program with the values of its command line. -/
def play (arguments : Arguments) : IO UInt8 := do
  let directory := arguments.config.getD
    (Settings.defaultDirectory (← IO.getEnv "XDG_CONFIG_HOME") (← IO.getEnv "HOME"))
  let before ← snapshot directory
  let (after, settings) := Program.settings arguments before []
  keep directory before after
  match Program.start settings arguments.nickname (← IO.monoNanosNow) with
  | .error failure =>
    IO.eprintln failure.message
    return Program.startFailure
  | .ok moved =>
    let typed ← IO.mkRef []
    let _ ← IO.asTask (readLines (← IO.getStdin) typed) .dedicated
    for text in moved.printed do IO.println text
    (← IO.getStdout).flush
    go typed moved.program .closed 0

end Blackjack.Terminal

/-- The console client. -/
def main (args : List String) : IO UInt32 := do
  match Blackjack.CommandLine.parse args with
  | .ok arguments => return (← Blackjack.Terminal.play arguments).toUInt32
  | .error e =>
    if e = .help then IO.println Blackjack.CommandLine.usage
    else IO.eprintln Blackjack.CommandLine.usage
    return e.exitCode.toUInt32
