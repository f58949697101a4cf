import EventLoop.Server.Basic

/-! # Rounds of the loop

    A round waits on the readiness set, notes which connections are ready, and calls
    handlers: that of the listener first, which may accept and disconnect, and then those of
    the noted connections in order. A noted connection is skipped when it was torn down in
    the meantime, which its id tells.

    Handlers are named by the server and given meaning by `Handlers`. They run on an
    `Application`, the server with its host and the application's data, and may do to it
    whatever they like, rounds included. The note of ready connections is part of the
    server, so that a round inside the listener's handler writes its own note over it. -/

namespace EventLoop

/-- A server, its host, and the application's data. -/
structure Application (L C D : Type) where
  server : Server L C
  host : Host
  data : D
  deriving DecidableEq, Repr

/-- Misuse that ends the program. -/
inductive Panic where
  /-- A watched descriptor has no connection. -/
  | unregistered (fd : Descriptor)
  /-- A session was used after its connection was removed. -/
  | sessionEnded (fd : Descriptor)
  deriving DecidableEq, Repr

/-- The message of a panic. -/
def Panic.message : Panic → String
  | unregistered fd => s!"fd {fd} is polled but has no connection"
  | sessionEnded fd => s!"fd {fd} disconnected during its own callback"

/-- An activity on a system, which can end in a panic; what it did before that stays. -/
abbrev Run (L C D : Type) := EStateM Panic (Application L C D)

/-- What the names of handlers mean. -/
structure Handlers (L C D : Type) where
  /-- The listener is ready for the given events. -/
  onListen : L → EventMask → Run L C D Unit
  /-- The connection under a descriptor is ready for the given events. -/
  onConnection : C → Descriptor → EventMask → Run L C D Unit

namespace Application

variable {L C D : Type}

/-- The world does something to the host. -/
def moved (app : Application L C D) (act : Host → Host) : Application L C D :=
  { app with host := act app.host }

/-- Write a message to the log. -/
def log (level : Log.Level) (message : String) : Run L C D Unit :=
  modify fun app => { app with host := app.host.log level message }

/-- Change the server. -/
def onServer (f : Server L C → Server L C) : Run L C D Unit :=
  modify fun app => { app with server := f app.server }

/-- Do something with server and host that gives an answer. -/
def run {α : Type} (f : Server L C → Host → α × Server L C × Host) : Run L C D α :=
  modifyGet fun app =>
    match f app.server app.host with
    | (a, server, host) => (a, { app with server := server, host := host })

/-- Do something while limits hold on the host. They end with it, also when it panics. -/
def within {α : Type} (limits : Limits) (act : Run L C D α) : Run L C D α := fun app =>
  match act { app with host := app.host.limited limits } with
  | .ok a after => .ok a { after with host := after.host.limitedAs app.host }
  | .error p after => .error p { after with host := after.host.limitedAs app.host }

end Application

namespace Server

variable {L C D : Type}

/-- Wait on the readiness set; a failure is logged. -/
def wait (s : Server L C) (h : Host) : Except Error Nat × Server L C × Host :=
  match s.polled.wait h with
  | (.ok n, polled, h) => (.ok n, { s with polled := polled }, h)
  | (.error e, polled, h) =>
    (.error e, { s with polled := polled }, h.log .error s!"poll: {e.message}")

/-- The connections that the last wait found ready, in the order of the readiness set. -/
def readyConnections (s : Server L C) : Except Panic (List Ready) :=
  ((s.polled.toList.drop 1).filter fun e => !e.result.isEmpty).mapM fun e =>
    match s.connections.get? e.fd with
    | some c => .ok ⟨e.fd, c.id, e.result⟩
    | none => .error (.unregistered e.fd)

/-- Call the handlers of ready connections in order. One whose connection is gone is skipped, also
    when its descriptor belongs to a newer connection. -/
def dispatch (handlers : Handlers L C D) : List Ready → Run L C D Unit
  | [] => pure ()
  | r :: rest => do
    let app ← get
    match app.server.connections.get? r.fd with
    | some c =>
      if c.id = r.id then
        Application.log .trace s!"dispatch fd {r.fd} {r.events.inspect}"
        handlers.onConnection c.handler r.fd r.events
    | none => pure ()
    dispatch handlers rest

/-- Call the handler of the listener, if the last wait found it ready. -/
def dispatchListener (handlers : Handlers L C D) : Run L C D Unit := do
  let app ← get
  let events := app.server.polled.result 0
  if !events.isEmpty then
    Application.log .trace s!"dispatch listener {events.inspect}"
    handlers.onListen app.server.handler events

/-- Note which connections are ready, and serve the listener and then the connections noted. -/
def serveReady (handlers : Handlers L C D) : Run L C D Unit := do
  match (← get).server.readyConnections with
  | .error panic => throw panic
  | .ok noted =>
    Application.onServer fun s => { s with ready := noted }
    dispatchListener handlers
    let snapshot := (← get).server.ready
    Application.onServer fun s => { s with ready := [] }
    dispatch handlers snapshot
    Application.onServer fun s => { s with ready := snapshot }

/-- Run one round. The answer is how many descriptors were ready; none when the time passed or a
    signal arrived. Only a failed wait is a failure. -/
def poll (handlers : Handlers L C D) : Run L C D (Except Error Nat) := do
  if !(← get).server.isBound then return .error .notBound
  match ← Application.run wait with
  | .error e => return .error e
  | .ok 0 => return .ok 0
  | .ok n =>
    serveReady handlers
    return .ok n

/-! ## Running while a predicate allows -/

/-- How a served loop ended. -/
inductive Ended where
  /-- The predicate said no. -/
  | stopped
  /-- A wait failed. -/
  | failed (e : Error)
  /-- It did not end within the checks it was followed for. -/
  | unfinished
  deriving DecidableEq, Repr

/-- Run rounds while a predicate, which may keep a state of its own, allows; it is asked before
    every round. A failed wait ends the loop. Before every check the world does something to the
    host, and the loop is followed for as many checks as are given such acts. -/
def serve {P : Type} (handlers : Handlers L C D) (allows : Server L C → D → P → Bool × P) :
    List (Host → Host) → P → Run L C D (Ended × P)
  | [], p => pure (.unfinished, p)
  | act :: world, p => do
    modify (·.moved act)
    let app ← get
    match allows app.server app.data p with
    | (false, p) => return (.stopped, p)
    | (true, p) =>
      match ← poll handlers with
      | .error e => return (.failed e, p)
      | .ok _ => serve handlers allows world p

end Server

end EventLoop
