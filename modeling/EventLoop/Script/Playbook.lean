import EventLoop.Script.Action
import EventLoop.Server.Session

/-! # Playbooks

    A playbook lays down beforehand what handlers do: each call of the listener's handler
    takes the first list of actions left for it, each call of a connection's handler the
    first one left for its descriptor, and performs it. With no list left a handler does
    nothing. Calls and reports are recorded in order.

    A handler performs its list with the handlers of one list less, since the list it took
    is gone from the playbook; so rounds can be nested as deep as there are lists. -/

namespace EventLoop.Script

/-- What is recorded. -/
inductive Entry where
  /-- The listener's handler was called. -/
  | listener (label : Label) (events : EventMask)
  /-- The handler of a connection was called. -/
  | connection (fd : Descriptor) (id : Nat) (label : Label) (events : EventMask)
  /-- An action within a handler was performed. -/
  | report (r : Report)
  deriving Repr

/-- The lists of actions that are left, and the record so far, newest entry first. -/
structure Playbook where
  listen : List (List Action)
  connections : List (Descriptor × List (List Action))
  record : List Entry
  deriving Repr

/-- A server whose handlers follow a playbook. -/
abbrev Stage := Application Label Label Playbook

/-- An activity on such a server. -/
abbrev Play := Run Label Label Playbook

namespace Playbook

/-- The playbook that leaves everything undone. -/
def blank : Playbook := ⟨[], [], []⟩

instance : Inhabited Playbook := ⟨blank⟩

/-- Number of lists that are left. -/
def size (p : Playbook) : Nat := p.listen.length + (p.connections.flatMap Prod.snd).length

/-- The entries recorded, in order. -/
def trace (p : Playbook) : List Entry := p.record.reverse

/-- Take the next list for the listener. -/
def takeListen (p : Playbook) : List Action × Playbook :=
  (p.listen.headD [], { p with listen := p.listen.tail })

/-- Take the next list for a connection. -/
def takeConnection (p : Playbook) (fd : Descriptor) : List Action × Playbook :=
  (((p.connections.lookup fd).getD []).headD [],
    { p with connections := p.connections.map fun (key, lists) =>
      (key, if key = fd then lists.tail else lists) })

end Playbook

/-- Record an entry. -/
def note (entry : Entry) : Play Unit :=
  modify fun app => { app with data := { app.data with record := entry :: app.data.record } }

/-! ## Performing actions -/

/-- Report a failure, or that the action was done. -/
def Report.ofOutcome : Except Error Unit → Report
  | .ok _ => .done
  | .error e => .failed e

/-- The descriptor and the id of what was accepted. -/
def acceptance (r : Except Error Descriptor) : Play Acceptance := do
  let connections := (← get).server.connections
  return r.map fun fd => (fd, ((connections.get? fd).map Connection.id).getD 0)

/-- Accept the first waiting client. -/
def accept (label : Label) : Play Acceptance := do acceptance (← Application.run (·.accept label))

/-- Accept at most a number of clients, up to the first failure other than that there is no room for
    a client. Each attempt but the last takes a client from the queue. -/
def acceptAll (label : Label) : Nat → Play (List Acceptance)
  | 0 => return []
  | limit + 1 => do
    let a ← accept label
    match a with
    | .ok _ | .error (.capacityExceeded _) => return a :: (← acceptAll label limit)
    | .error _ => return [a]

/-- Use data: what is reported, and what is kept. -/
def useData (kept : Option UserData) : DataUse → Report × Option UserData
  | .set value => (.nothing, some value)
  | .getNumber => (.data (kept.filter fun | .number _ => true | .text _ => false), kept)
  | .getText => (.data (kept.filter fun | .number _ => false | .text _ => true), kept)
  | .edit =>
    match kept with
    | some (.number n) => (.edited (some (n + 1)) none, some (.number (n + 1)))
    | some (.text s) => (.edited none (some (s ++ "!")), some (.text (s ++ "!")))
    | none => (.edited none none, none)
  | .take => (.truth kept.isSome, none)

/-- Use a connection. -/
def useConnection (c : Connection Label) (h : Host) : Use → Report × Connection Label × Host
  | .queue data allowGrow =>
    match c.queue data allowGrow h with
    | (count, c, h) => (.number count, c, h)
  | .flush =>
    match c.flush h with
    | (.ok n, c, h) => (.number n, c, h)
    | (.error e, c, h) => (.failed e, c, h)
  | .receive =>
    match c.receive h with
    | (.ok f, c, h) => (.fill f, c, h)
    | (.error e, c, h) => (.failed e, c, h)
  | .read room =>
    match c.input.read room with
    | (data, input) => (.bytes data, { c with input := input }, h)
  | .consumeOutput count =>
    match c.output.consume count with
    | (dropped, output) => (.number dropped, { c with output := output }, h)
  | .input => (.buffer c.input, c, h)
  | .output => (.buffer c.output, c, h)
  | .setStatus status => (.nothing, { c with status := status }, h)
  | .handler => (.label c.handler, c, h)
  | .setHandler label => (.nothing, { c with handler := label }, h)
  | .inspect => (.text c.inspect, c, h)

/-- Do something to a connection and the host, if there is one under the descriptor. -/
def onConnection (fd : Descriptor)
    (f : Connection Label → Host → Report × Connection Label × Host) :
    Play Report :=
  Application.run fun server h =>
    match server.connections.get? fd with
    | none => (.noConnection, server, h)
    | some c =>
      match f c h with
      | (r, c, h) => (r, server.onConnection fd fun _ => c, h)

/-- Use the session of a handler. -/
def useSession (s : Session) : SessionUse → Play Report
  | .disconnect => return .truth (← s.disconnect)
  | .setInterest interest => return .ofOutcome (← s.setInterest interest)
  | .connected => return .truth (← s.isConnected)
  | .count => return .number (← get).server.connections.size
  | .status => return .number (← s.connection).status.toNat
  | .setStatus status => do
    s.update fun c => { c with status := status }
    return .nothing

/-- Bind a second server to the address of the first; if it can be bound it is closed at once. -/
def bindAgain (server : Server Label Label) (h : Host) : Report × Server Label Label × Host :=
  match (Server.bind server.localAddress.text .a server.config h : Except Error
    (Server Label Label) × Host) with
  | (.ok second, h) => (.done, server, second.listener.elim h fun l => h.close l.fd)
  | (.error e, h) => (.failed e, server, h)

/-- Perform an action, with the given handlers in rounds. Outside a handler there is no session. -/
def perform (handlers : Handlers Label Label Playbook) (session : Option Session) :
    Action → Play Report
  | .accept label => return .accepted (← accept label)
  | .acceptAll label => do
    let app ← get
    return .acceptedAll (← acceptAll label (app.server.pending app.host + 1))
  | .acceptAt fd label => do
    return .accepted (← acceptance (← Application.run (·.acceptAt fd label)))
  | .disconnect fd => return .truth (← Application.run (·.disconnect (own fd)))
  | .setInterest fd interest => return .ofOutcome (← Session.setInterest ⟨own fd⟩ interest)
  | .setTimeout timeout => do
    Application.onServer (·.setTimeout timeout)
    return .nothing
  | .setListenHandler label => do
    Application.onServer fun s => { s with handler := label }
    return .nothing
  | .cleanup => Application.run fun server h => (.nothing, server.cleanup h)
  | .poll => do
    match ← Server.poll handlers with
    | .ok n => return .ready n
    | .error e => return .failed e
  | .serve rounds => do
    -- nobody acts between the rounds of a script
    let quiet := List.replicate (rounds + 1) id
    let (ended, checks) ← Server.serve handlers (fun _ _ n => (decide (n < rounds), n + 1)) quiet 0
    return .served ended checks
  | .bindAgain => Application.run bindAgain
  | .inspect => do
    let s := (← get).server
    return .server s.inspect s.localAddress s.port s.config.maxClients
  | .serverData use =>
    Application.run fun server h =>
      match useData server.userData use with
      | (r, kept) => (r, { server with userData := kept }, h)
  | .connectionData fd use =>
    onConnection fd fun c h =>
      match useData c.userData use with
      | (r, kept) => (r, { c with userData := kept }, h)
  | .connection fd use => onConnection (own fd) fun c h => useConnection c h use
  | .session use =>
    match session with
    | some s => useSession s use
    | none => return .nothing
  | .limited limits action => Application.within limits (perform handlers session action)
where
  /-- The descriptor meant by an action. -/
  own (fd : Option Descriptor) : Descriptor := fd.getD ((session.map Session.fd).getD (-1))

/-- Perform actions in order and record their reports. Ending the session ends the list. -/
def performAll (handlers : Handlers Label Label Playbook) (session : Option Session) :
    List Action → Play Unit
  | [] => pure ()
  | action :: rest => do
    note (.report (← perform handlers session action))
    if action = .session .disconnect then pure () else performAll handlers session rest

/-- The handlers that follow the playbook, as long as no more than `depth` of its lists are open at
    once. -/
def handlers : Nat → Handlers Label Label Playbook
  | 0 => ⟨fun _ _ => pure (), fun _ _ _ => pure ()⟩
  | depth + 1 => {
    onListen := fun label events => do
      note (.listener label events)
      let actions ← modifyGet fun app =>
        match app.data.takeListen with
        | (actions, playbook) => (actions, { app with data := playbook })
      performAll (handlers depth) none actions
    onConnection := fun label fd events => do
      let id := (((← get).server.connections.get? fd).map Connection.id).getD 0
      note (.connection fd id label events)
      let actions ← modifyGet fun app =>
        match app.data.takeConnection fd with
        | (actions, playbook) => (actions, { app with data := playbook })
      performAll (handlers depth) (some ⟨fd⟩) actions }

/-- Perform an action from outside; handlers follow the playbook of the system. -/
def act (action : Action) : Play Report := do
  perform (handlers ((← get).data.size + 1)) none action

end EventLoop.Script
