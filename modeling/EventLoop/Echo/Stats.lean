import EventLoop.Decimal.Fixed

/-! # Counters of the echo server

    What the server has done since it started, and the line that presents it. -/

namespace EventLoop.Echo

/-- The counters. They are plain numbers: words hold them as long as the server made fewer than
    2 ^ 64 attempts to accept, served fewer turns, and had room for fewer bytes in these. -/
structure Stats where
  /-- Clients taken on. -/
  accepts : Nat
  /-- Clients turned away for lack of a slot. -/
  rejected : Nat
  /-- Receives that brought bytes. -/
  recvs : Nat
  /-- Sends that took bytes. -/
  sends : Nat
  /-- Connections closed. -/
  closes : Nat
  bytesIn : Nat
  bytesOut : Nat
  errors : Nat
  deriving DecidableEq, Repr

namespace Stats

/-- Nothing has happened. -/
def zero : Stats := ⟨0, 0, 0, 0, 0, 0, 0, 0⟩

instance : Inhabited Stats := ⟨zero⟩

/-- The line that presents the counters beside the seconds passed and the live connections. -/
def line (s : Stats) (connections : Nat) (elapsed : Decimal.Binary) : String :=
  s!"[{elapsed.text}s] conns={connections} accepts={s.accepts} rejected={s.rejected} "
    ++ s!"recv={s.recvs} send={s.sends} close={s.closes} bytes_in={s.bytesIn} "
    ++ s!"bytes_out={s.bytesOut} err={s.errors}"

end Stats

end EventLoop.Echo
