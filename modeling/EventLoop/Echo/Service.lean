import EventLoop.Echo.Turn
import EventLoop.Server.Session

/-! # The echo service

    The handlers that make a server send everything back. The listener's handler accepts
    until nobody is left to accept; a connection's handler serves one turn and then closes
    the connection or adjusts its interest. -/

namespace EventLoop.Echo

/-- An echo server. It needs no names for its handlers. -/
abbrev Service := Application Unit Unit Stats

/-- An activity of an echo server. -/
abbrev Activity := Run Unit Unit Stats

/-- Change the counters. -/
def count (f : Stats → Stats) : Activity Unit := modify fun app => { app with data := f app.data }

/-- Accept clients, at most `limit` of them. One without a free slot was taken from the queue and
    turned away; any other failure ends the loop. -/
def acceptWithin : Nat → Activity Unit
  | 0 => pure ()
  | limit + 1 => do
    match ← Application.run (·.accept ()) with
    | .ok fd =>
      Application.onServer (·.onConnection fd fun c => { c with status := watchMask })
      count fun s => { s with accepts := s.accepts + 1 }
      acceptWithin limit
    | .error (.capacityExceeded _) =>
      count fun s => { s with rejected := s.rejected + 1 }
      acceptWithin limit
    | .error e =>
      if !e.isWouldBlock then
        if !e.isTransient then Application.log .error s!"accept: {e.message}"
        count fun s => { s with errors := s.errors + 1 }

/-- Accept all clients that wait. Each attempt but the last takes one from the queue. -/
def onListen (events : EventMask) : Activity Unit := do
  if events.isReadable then
    let app ← get
    acceptWithin (app.server.pending app.host + 1)

/-- Close a connection. -/
def close (session : Session) : Activity Unit := do
  if ← session.disconnect then
    count fun s => { s with closes := s.closes + 1 }

/-- Let a connection watch the directions that it should. -/
def adjust (session : Session) : Activity Unit := do
  let c ← session.connection
  let backlog := c.hasPendingOutput || !c.input.isEmpty
  let wanted := wantedWatch c.status c.input.isFull backlog
  if wanted ≠ c.status &&& watchMask then
    match ← session.setInterest (interestFor wanted) with
    | .ok _ => session.update fun c => { c with status := (c.status &&& ~~~watchMask) ||| wanted }
    | .error _ => pure ()

/-- Serve one turn of a connection. -/
def takeTurn (session : Session) (events : EventMask) : Activity Bool := do
  let c ← session.connection
  modifyGet fun app =>
    match (⟨c, app.data, app.host⟩ : Turn).serve events with
    | (kept, t) =>
      (kept, ⟨app.server.onConnection session.fd fun _ => t.connection, t.host, t.stats⟩)

/-- Serve a ready connection. -/
def onConnection (fd : Descriptor) (events : EventMask) : Activity Unit := do
  if ← takeTurn ⟨fd⟩ events then adjust ⟨fd⟩ else close ⟨fd⟩

/-- The handlers of an echo server. -/
def handlers : Handlers Unit Unit Stats := ⟨fun _ => onListen, fun _ => onConnection⟩

/-- The handlers, but with one connection served as if it were ready for other events. -/
def handlersForcing (fd : Descriptor) (events : EventMask) : Handlers Unit Unit Stats :=
  ⟨fun _ => onListen,
    fun _ ready reported => onConnection ready (if ready = fd then events else reported)⟩

/-- Run a number of rounds. The answer is the count or the failure of each; a failed round does not
    keep the next from being run. -/
def rounds (handlers : Handlers Unit Unit Stats) : Nat → Activity (List (Except Error Nat))
  | 0 => return []
  | n + 1 => do
    let outcome ← Server.poll handlers
    return outcome :: (← rounds handlers n)

/-- Run rounds until one finds nothing ready, at most `limit` of them. -/
def settle : Nat → Activity (Except Error Unit)
  | 0 => return .ok ()
  | limit + 1 => do
    match ← Server.poll handlers with
    | .error e => return .error e
    | .ok 0 => return .ok ()
    | .ok _ => settle limit

end EventLoop.Echo
