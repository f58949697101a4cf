import EventLoop.Echo.Command

/-! # The command line

    Runs the echo command on a host with one client: each line of standard input is sent by
    the client, and what comes back is written to standard output. At the end of the input
    the client sends no more and the command is told to stop. -/

namespace EventLoop

/-- The variables that the command looks at. -/
def commandVariables : List String :=
  ["PSV_MAX_CLIENTS", "PSV_BUFFER_SIZE", "PSV_POLL_TIMEOUT_MS", "PSV_BACKLOG",
  "PSV_LOG_LEVEL", "PSV_FLUSH_EPRINT"]

/-- The variables that are set. -/
def readEnvironment : IO Environment := do
  let set ← commandVariables.filterMapM fun name => do
    return (← IO.getEnv name).map fun value => (name, Value.text value)
  return ⟨set⟩

/-- Rounds within which a line comes back. -/
def roundsPerLine (line : Bytes) : Nat := 2 * line.length + 8

/-- The client of the command sends bytes and collects what comes back. -/
def exchange (client : Nat) (sent : Stream → Stream) (limit : Nat) (app : Echo.Service) :
    Except Error Unit × Bytes × Echo.Service :=
  let app := { app with host := { app.host with kernel := app.host.kernel.onStream client sent } }
  let (ended, app) := match Echo.settle limit app with
    | .ok ended app => (ended, app)
    | .error _ app => (.ok (), app)
  match app.host.kernel.streams[client]? with
  | some stream =>
    let (received, _, stream) := stream.peerReceive
    (ended, received, { app with host :=
      { app.host with kernel := app.host.kernel.onStream client fun _ => stream } })
  | none => (ended, [], app)

/-- Serve the client line by line. -/
partial def serveLines (input output : IO.FS.Stream) (client : Nat) (app : Echo.Service) :
    IO (Except Error Unit × Echo.Service) := do
  let line ← input.getLine
  let data := line.toUTF8.toList
  let sent (s : Stream) : Stream := if data.isEmpty then s.peerShutdown else s.peerSend data
  let (ended, received, app) := exchange client sent (roundsPerLine data) app
  output.write ⟨received.toArray⟩
  match ended with
  | .error e => return (.error e, app)
  | .ok _ => if data.isEmpty then return (.ok (), app) else serveLines input output client app

end EventLoop

open EventLoop in
/-- Run the echo command. -/
def main (arguments : List String) : IO UInt32 := do
  let call : Echo.Command.Invocation := ⟨arguments, ← readEnvironment⟩
  let start ← IO.monoMsNow
  match call.start (call.host .loopback) with
  | .error h =>
    IO.eprint h.logger.written
    return UInt32.ofNat Echo.Command.failureCode
  | .ok app =>
    match app.host.kernel.connect app.server.localAddress with
    | (.error e, _) =>
      IO.eprintln e.text
      return UInt32.ofNat Echo.Command.failureCode
    | (.ok client, kernel) =>
      let (ended, app) ← serveLines (← IO.getStdin) (← IO.getStdout) client
        { app with host := { app.host with kernel := kernel } }
      let seconds := Float.ofNat ((← IO.monoMsNow) - start) / 1000
      let (code, h) := Echo.Command.finish ended (Decimal.Binary.ofBits seconds.toBits) app
      IO.eprint h.logger.written
      return UInt32.ofNat code
