import EventLoop.DescriptorTable
import EventLoop.Kernel.Stream

/-! # The operating system

    What the system keeps for this process: its open descriptors, the streams and pipes
    behind them, and the limits that can be put on it.

    * A new descriptor gets the lowest free number from 3 on, and none is made at or past
      the limit.
    * Accepting asks for the descriptor first, so that a full table wins over an empty
      queue.
    * A wait reports for each entry its condition, masked by its interest and the flags
      reported always. -/

namespace EventLoop

/-- How the host is joined to a network. -/
inductive Network where
  /-- Clients on the host reach it; its own addresses can be bound. -/
  | loopback
  /-- Nobody reaches the host; every address can be bound. -/
  | isolated
  deriving DecidableEq, Repr, Inhabited

/-- What a descriptor stands for. Streams and pipes are given by their index. -/
inductive Handle where
  /-- A socket before it listens, and the address it was bound to. -/
  | socket (bound : Option Address)
  /-- A listening socket and the streams that wait to be accepted, first come first. -/
  | listener (address : Address) (queue : List Nat)
  | stream (index : Nat)
  | pipeReader (index : Nat)
  | pipeWriter (index : Nat)
  deriving DecidableEq, Repr, Inhabited

/-- The calls of a listener's making that a system may refuse whatever the descriptor is. -/
inductive Setup where
  /-- Let it take an address that was in use a short while ago. -/
  | reuseAddress
  /-- Set its flags. -/
  | setFlags
  /-- Tell the address it was bound to. -/
  | ownAddress
  deriving DecidableEq, Repr, Inhabited

/-- An open file. -/
structure OpenFile where
  handle : Handle
  /-- Calls on it do not wait. -/
  nonblocking : Bool
  deriving DecidableEq, Repr, Inhabited

/-- The state of the system as far as this process can see it. -/
structure Kernel where
  network : Network
  /-- The open files under their numbers; the newest holder of a number comes first. -/
  files : List (Descriptor × OpenFile)
  streams : List Stream
  /-- The bytes in each pipe. -/
  pipes : List Bytes
  /-- No descriptor with this number or a larger one is made. -/
  descriptorLimit : Option Nat
  /-- A signal arrives in every wait that lasts. -/
  interrupted : Bool
  /-- The port that is handed out next. -/
  nextPort : Nat
  /-- The calls of a listener's making that are refused, and with what. -/
  refusals : List (Setup × Errno)
  deriving DecidableEq, Repr

namespace Kernel

/-- A system on which nothing is open. -/
def fresh (network : Network) : Kernel := ⟨network, [], [], [], none, false, 32768, []⟩

instance : Inhabited Kernel := ⟨fresh .loopback⟩

/-! ## Descriptors -/

/-- The numbers of the open files. -/
def openDescriptors (k : Kernel) : List Descriptor := k.files.map Prod.fst

/-- The file that is open under a number. -/
def file? (k : Kernel) (fd : Descriptor) : Option OpenFile := k.files.lookup fd

/-- The lowest free number. -/
def lowestFree (k : Kernel) : Descriptor :=
  3 + ((List.range (k.files.length + 1)).find? fun (i : Nat) =>
    !k.openDescriptors.contains (3 + (i : Int))).getD 0

/-- A number can still be handed out. -/
def admits (k : Kernel) (fd : Descriptor) : Bool :=
  k.descriptorLimit.all fun limit => decide (fd < limit)

/-- Open a file under a number. -/
def openAt (k : Kernel) (fd : Descriptor) (file : OpenFile) : Kernel :=
  { k with files := (fd, file) :: k.files }

/-- Open a file under the lowest free number. -/
def openFile (k : Kernel) (file : OpenFile) : Except Errno Descriptor × Kernel :=
  if k.admits k.lowestFree then (.ok k.lowestFree, k.openAt k.lowestFree file)
  else (.error .processTableFull, k)

/-- Change the file under a number. -/
def setFile (k : Kernel) (fd : Descriptor) (file : OpenFile) : Kernel :=
  { k with files := k.files.modify (k.files.findIdx (·.1 == fd)) fun _ => (fd, file) }

/-- Change a stream. -/
def onStream (k : Kernel) (index : Nat) (f : Stream → Stream) : Kernel :=
  { k with streams := k.streams.modify index f }

/-- Close a file: a stream is closed, and streams that nobody accepted are aborted. -/
def close (k : Kernel) (fd : Descriptor) : Kernel :=
  let rest := { k with files := k.files.eraseP fun (key, _) => key == fd }
  match (k.file? fd).map OpenFile.handle with
  | some (.stream index) => rest.onStream index Stream.close
  | some (.listener _ queue) => queue.foldl (fun k index => k.onStream index Stream.abort) rest
  | _ => rest

/-- With what a call on a file is refused, if it is. A stream was made by the system, which refuses
    nothing on it. -/
def refusal? (k : Kernel) (call : Setup) (file : OpenFile) : Option Errno :=
  match file.handle with
  | .stream _ => none
  | _ => k.refusals.lookup call

/-- The flags of a file: whether calls on it do not wait. -/
def flags (k : Kernel) (fd : Descriptor) : Except Errno Bool × Kernel :=
  match k.file? fd with
  | some file => (.ok file.nonblocking, k)
  | none => (.error .badDescriptor, k)

/-- Make calls on a file not wait. -/
def setNonblocking (k : Kernel) (fd : Descriptor) : Except Errno Unit × Kernel :=
  match k.file? fd with
  | some file =>
    match k.refusal? .setFlags file with
    | some errno => (.error errno, k)
    | none => (.ok (), k.setFile fd { file with nonblocking := true })
  | none => (.error .badDescriptor, k)

/-! ## Listening -/

/-- Make a socket. -/
def socket (k : Kernel) : Except Errno Descriptor × Kernel := k.openFile ⟨.socket none, false⟩

/-- The address of a socket that was bound. -/
def localAddress? (k : Kernel) (fd : Descriptor) : Option Address :=
  match (k.file? fd).map OpenFile.handle with
  | some (.socket bound) => bound
  | some (.listener address _) => some address
  | _ => none

/-- Let a socket take an address that was in use a short while ago. Such addresses are not kept
    here, so that nothing changes. -/
def reuseAddress (k : Kernel) (fd : Descriptor) : Except Errno Unit × Kernel :=
  match k.file? fd with
  | some file => (((k.refusal? .reuseAddress file).elim (.ok ()) .error), k)
  | none => (.error .badDescriptor, k)

/-- Tell the address of a socket; one that was not bound has none of its own. -/
def ownAddress (k : Kernel) (fd : Descriptor) : Except Errno Address × Kernel :=
  match k.file? fd with
  | some file =>
    ((k.refusal? .ownAddress file).elim (.ok ((k.localAddress? fd).getD ⟨.unspecified, 0⟩)) .error,
      k)
  | none => (.error .badDescriptor, k)

/-- Two addresses claim the same port of the same interface. -/
def clash (a b : Address) : Bool :=
  a.port == b.port && (a.ip == b.ip || a.ip == .unspecified || b.ip == .unspecified)

/-- Bind a socket. Port 0 stands for a port of the system's choice. -/
def bind (k : Kernel) (fd : Descriptor) (address : Address) : Except Errno Unit × Kernel :=
  if k.network = .loopback ∧ address.ip ≠ .unspecified ∧ !address.ip.isLoopback then
    (.error .addressNotAvailable, k)
  else if address.port ≠ 0 ∧ k.openDescriptors.any fun other =>
    (k.localAddress? other).any (clash address) then
    (.error .addressInUse, k)
  else
    let chosen :=
      if address.port = 0 then { address with port := UInt16.ofNat k.nextPort } else address
    let k := if address.port = 0 then { k with nextPort := k.nextPort + 1 } else k
    (.ok (), k.setFile fd ⟨.socket (some chosen), false⟩)

/-- Let a bound socket listen. -/
def listen (k : Kernel) (fd : Descriptor) : Except Errno Unit × Kernel :=
  match k.file? fd with
  | some ⟨.socket (some address), nonblocking⟩ =>
    (.ok (), k.setFile fd ⟨.listener address [], nonblocking⟩)
  | some _ => (.error .invalidArgument, k)
  | none => (.error .badDescriptor, k)

/-- Streams that wait to be accepted. -/
def queue (k : Kernel) (fd : Descriptor) : List Nat :=
  match (k.file? fd).map OpenFile.handle with
  | some (.listener _ queue) => queue
  | _ => []

/-- Take the first waiting stream of a listener under a given number. -/
def take (k : Kernel) (listener fd : Descriptor) : Except Errno (Descriptor × Address) × Kernel :=
  match k.file? listener with
  | some ⟨.listener address (first :: rest), nonblocking⟩ =>
    let peer := ((k.streams[first]?).map Stream.peer).getD ⟨.unspecified, 0⟩
    (.ok (fd, peer),
      (k.setFile listener ⟨.listener address rest, nonblocking⟩).openAt fd ⟨.stream first, false⟩)
  | some ⟨.listener _ [], _⟩ => (.error .again, k)
  | some _ => (.error .invalidArgument, k)
  | none => (.error .badDescriptor, k)

/-- Accept the first waiting stream under a given number. -/
def acceptAt (k : Kernel) (listener fd : Descriptor) :
    Except Errno (Descriptor × Address) × Kernel :=
  if k.admits fd then k.take listener fd else (.error .processTableFull, k)

/-- Accept the first waiting stream under the lowest free number. -/
def accept (k : Kernel) (listener : Descriptor) : Except Errno (Descriptor × Address) × Kernel :=
  k.acceptAt listener k.lowestFree

/-! ## Transfers -/

/-- Send on a stream. -/
def send (k : Kernel) (fd : Descriptor) (data : Bytes) : Except Errno Nat × Kernel :=
  match (k.file? fd).map OpenFile.handle with
  | some (.stream index) =>
    match k.streams[index]? with
    | some s => ((s.send data).1, { k with streams := k.streams.set index (s.send data).2 })
    | none => (.error .badDescriptor, k)
  | _ => (.error .badDescriptor, k)

/-- Receive from a stream. -/
def recv (k : Kernel) (fd : Descriptor) (room : Nat) : Except Errno Arrival × Kernel :=
  match (k.file? fd).map OpenFile.handle with
  | some (.stream index) =>
    match k.streams[index]? with
    | some s => ((s.receive room).1, { k with streams := k.streams.set index (s.receive room).2 })
    | none => (.error .badDescriptor, k)
  | _ => (.error .badDescriptor, k)

/-! ## Waiting -/

/-- Some open file satisfies a test. -/
def hasHandle (k : Kernel) (test : Handle → Bool) : Bool :=
  k.files.any fun (_, file) => test file.handle

/-- What a wait finds for a descriptor. -/
def condition (k : Kernel) (fd : Descriptor) : EventMask :=
  match (k.file? fd).map OpenFile.handle with
  | none => .invalid
  | some (.socket _) => EventMask.writable ||| EventMask.hangup
  | some (.listener _ queue) => if queue.isEmpty then .empty else .readable
  | some (.stream index) => ((k.streams[index]?).map Stream.condition).getD .empty
  | some (.pipeReader index) =>
    (if (k.pipes[index]?).any (· ≠ []) then EventMask.readable else EventMask.empty)
      ||| (if k.hasHandle (· == .pipeWriter index) then EventMask.empty else EventMask.hangup)
  | some (.pipeWriter index) =>
    EventMask.writable ||| (if k.hasHandle (· == .pipeReader index) then EventMask.empty
      else EventMask.error)

/-- The result of a wait for one entry. -/
def readiness (k : Kernel) (fd : Descriptor) (interest : EventMask) : EventMask :=
  EventMask.reported interest (k.condition fd)

/-- Wait for entries of descriptor and interest. The answer is a result per entry; all are empty
    when the time passed. More entries than descriptors allowed are refused, and a signal ends a
    wait that finds nothing at once. -/
def poll (k : Kernel) (entries : List (Descriptor × EventMask)) (timeout : Int) :
    Except Errno (List EventMask) :=
  let results := entries.map fun (fd, interest) => k.readiness fd interest
  if k.descriptorLimit.any (· < entries.length) then .error .invalidArgument
  else if k.interrupted ∧ timeout ≠ 0 ∧ results.all EventMask.isEmpty then .error .interrupted
  else .ok results

/-! ## Pipes and pairs -/

/-- Make a pipe: the descriptors of its two ends, reading end first. -/
def pipe (k : Kernel) : Except Errno (Descriptor × Descriptor) × Kernel :=
  let index := k.pipes.length
  match { k with pipes := k.pipes ++ [[]] }.openFile ⟨.pipeReader index, false⟩ with
  | (.error e, _) => (.error e, k)
  | (.ok reader, opened) =>
    match opened.openFile ⟨.pipeWriter index, false⟩ with
    | (.error e, _) => (.error e, k)
    | (.ok writer, opened) => (.ok (reader, writer), opened)

/-- Write into a pipe. -/
def write (k : Kernel) (fd : Descriptor) (data : Bytes) : Except Errno Nat × Kernel :=
  match (k.file? fd).map OpenFile.handle with
  | some (.pipeWriter index) =>
    if k.hasHandle (· == .pipeReader index) then
      (.ok data.length, { k with pipes := k.pipes.modify index (· ++ data) })
    else (.error .brokenPipe, k)
  | _ => (.error .badDescriptor, k)

/-- Read at most a number of bytes from a pipe. -/
def read (k : Kernel) (fd : Descriptor) (room : Nat) : Except Errno Bytes × Kernel :=
  match (k.file? fd).map OpenFile.handle with
  | some (.pipeReader index) =>
    let held := (k.pipes[index]?).getD []
    (.ok (held.take room), { k with pipes := k.pipes.modify index (·.drop room) })
  | _ => (.error .badDescriptor, k)

/-- Join this process to a peer on the same host: the descriptor of its end and the stream. -/
def socketPair (k : Kernel) : Except Errno (Descriptor × Nat) × Kernel :=
  let index := k.streams.length
  match { k with streams := k.streams ++ [Stream.fresh .pair ⟨.unspecified, 0⟩] }.openFile
    ⟨.stream index, false⟩ with
  | (.ok fd, opened) => (.ok (fd, index), opened)
  | (.error e, _) => (.error e, k)

/-! ## Clients -/

/-- The descriptor of the listener that an address reaches. -/
def listenerAt? (k : Kernel) (address : Address) : Option Descriptor :=
  k.openDescriptors.find? fun fd =>
    match (k.file? fd).map OpenFile.handle with
    | some (.listener bound _) => clash bound address
    | _ => false

/-- A client connects to an address and waits to be accepted. The answer is its stream. -/
def connect (k : Kernel) (address : Address) : Except Errno Nat × Kernel :=
  match k.network with
  | .isolated => (.error ⟨101⟩, k)
  | .loopback =>
    match k.listenerAt? address with
    | none => (.error ⟨111⟩, k)
    | some fd =>
      match k.file? fd with
      | some ⟨.listener bound queue, nonblocking⟩ =>
        let index := k.streams.length
        let client := Stream.fresh .tcp ⟨.localhost, UInt16.ofNat k.nextPort⟩
        let k := { k with streams := k.streams ++ [client], nextPort := k.nextPort + 1 }
        (.ok index, k.setFile fd ⟨.listener bound (queue ++ [index]), nonblocking⟩)
      | _ => (.error ⟨111⟩, k)

end Kernel

end EventLoop
