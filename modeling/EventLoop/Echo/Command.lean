import EventLoop.Echo.Service

/-! # The echo command

    The command takes an address to listen on and its limits from the environment, serves
    until it is told to stop, and ends with the counters. What goes wrong is logged; the
    exit code says whether something did. -/

namespace EventLoop.Echo.Command

/-- How the command was called. -/
structure Invocation where
  /-- The arguments after the name of the command. -/
  arguments : List String
  environment : Environment
  deriving DecidableEq, Repr

namespace Invocation

/-- The first argument is the address to listen on. -/
def address (i : Invocation) : String := i.arguments.headD "8080"

/-- The limits. Unless a timeout is set, the loop wakes up every second to see whether it should
    stop. -/
def config (i : Invocation) : Config :=
  let config := Config.ofEnvironment i.environment
  if i.environment.isSet "PSV_POLL_TIMEOUT_MS" then config else { config with pollTimeout := 1000 }

/-- A host for the command: nothing is open, and the log is configured by the environment. -/
def host (i : Invocation) (network : Network) : Host := .fresh network (.initial i.environment)

/-- Start to listen. Without an address to listen on there is nothing but the log. -/
def start (i : Invocation) (h : Host) : Except Host Service :=
  match Server.bind i.address () i.config { h with logger := h.logger.init } with
  | (.ok server, h) =>
    .ok ⟨server, h.log .info s!"echo: serving on {server.localAddress.text}", .zero⟩
  | (.error e, h) => .error (h.log .error s!"echo: cannot listen on {i.address}: {e.message}")

end Invocation

/-- The exit code when something went wrong. -/
def failureCode : Nat := 1

/-- The round in which a signal arrives. -/
def lastRound : Activity (Except Error Unit) :=
  Application.within ⟨none, true, none⟩ do return (← Server.poll handlers).map fun _ => ()

/-- Stop after serving ended: present the counters, close everything, and report the failure that
    ended the loop, if one did. -/
def finish (ended : Except Error Unit) (elapsed : Decimal.Binary) (app : Service) : Nat × Host :=
  let presented := { app.host with
    logger := app.host.logger.print (app.data.line app.server.connections.size elapsed) }
  let (_, h) := app.server.cleanup presented
  match ended with
  | .ok _ => (0, h)
  | .error e => (failureCode, h.log .error s!"echo: event loop stopped: {e.message}")

end EventLoop.Echo.Command
