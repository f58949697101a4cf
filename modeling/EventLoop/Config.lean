import EventLoop.Environment
import EventLoop.Error
import EventLoop.Log.Logger

/-! # Server configuration

    Four limits, each with a default and a variable that overrides it, and the rules that
    they keep. -/

namespace EventLoop

/-- Powers of two: the numbers that are their own highest bit. -/
def isPowerOfTwo (n : Nat) : Bool := n != 0 && 1 <<< n.log2 == n

/-- Bytes a connection's buffers start with. -/
def defaultBufferSize : Nat := 1024

/-- Clients served at once. -/
def defaultMaxClients : Nat := 1024

/-- Connections that may wait to be accepted. -/
def defaultBacklog : Int := 1024

/-- The timeout of a wait that lasts until something is ready. -/
def blockIndefinitely : Int := -1

/-- The limits of a server. -/
structure Config where
  /-- Clients served at once. -/
  maxClients : Nat
  /-- Bytes each buffer of a connection starts with; a power of two. -/
  bufferSize : Nat
  /-- Milliseconds a wait lasts; `-1` waits until something is ready, `0` not at all. -/
  pollTimeout : Int
  /-- Connections that may wait to be accepted. -/
  backlog : Int
  deriving DecidableEq, Repr

namespace Config

/-- The defaults. -/
def new : Config := ⟨defaultMaxClients, defaultBufferSize, blockIndefinitely, defaultBacklog⟩

instance : Inhabited Config := ⟨new⟩

/-- The defaults with what the environment overrides. -/
def ofEnvironment (env : Environment) : Config where
  maxClients := (env.int .word "PSV_MAX_CLIENTS" defaultMaxClients).toNat
  bufferSize := (env.int .word "PSV_BUFFER_SIZE" defaultBufferSize).toNat
  pollTimeout := env.int .int32 "PSV_POLL_TIMEOUT_MS" blockIndefinitely
  backlog := env.int .int32 "PSV_BACKLOG" defaultBacklog

/-- Slots of the readiness set: one per client and one for the listener. -/
def pollCapacity (c : Config) : Nat := min (c.maxClients + 1) maxWord

/-- The first rule that the limits break, if any. -/
def validate (c : Config) : Except Error Unit :=
  if c.maxClients = 0 then .error (.invalidConfig "max_clients must be > 0")
  else if !isPowerOfTwo c.bufferSize then
    .error (.invalidConfig "buffer_size must be a power of two")
  else if c.pollTimeout < blockIndefinitely then
    .error (.invalidConfig "poll_timeout_ms must be >= -1")
  else if c.backlog ≤ 0 then .error (.invalidConfig "backlog must be > 0")
  else .ok ()

/-- The limits as a record. -/
def inspect (c : Config) : String :=
  Text.record "ServerConfig" [("max_clients", toString c.maxClients),
    ("buffer_size", toString c.bufferSize),
    ("poll_timeout_ms", toString c.pollTimeout), ("backlog", toString c.backlog)]

/-- The lines that present the limits. -/
def lines (c : Config) : List String := [
  "pollserve configuration:",
  s!"  max_clients:      {c.maxClients}",
  s!"  buffer_size:      {c.bufferSize}",
  s!"  poll_timeout_ms:  {c.pollTimeout}",
  s!"  backlog:          {c.backlog}"]

/-- Write the lines that present the limits. -/
def print (c : Config) (l : Log.Logger) : Log.Logger := c.lines.foldl Log.Logger.print l

end Config

end EventLoop
