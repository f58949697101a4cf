import EventLoop.Server.Poll

/-! # Actions

    What a script can do to a server, from outside or within a handler, and what it reports
    about it. -/

namespace EventLoop.Script

/-- The name of a handler. Handlers of different names behave alike. -/
inductive Label where
  | a
  | b
  deriving DecidableEq, Repr, Inhabited

/-- A use of one connection. -/
inductive Use where
  /-- Stage bytes for sending. -/
  | queue (data : Bytes) (allowGrow : Bool)
  /-- Send what is staged. -/
  | flush
  /-- Receive what the socket has. -/
  | receive
  /-- Take received bytes. -/
  | read (room : Nat)
  /-- Drop staged bytes. -/
  | consumeOutput (count : Nat)
  | input
  | output
  | setStatus (status : Status)
  | handler
  | setHandler (label : Label)
  | inspect
  deriving DecidableEq, Repr

/-- A use of the data kept with a server or a connection. -/
inductive DataUse where
  | set (value : UserData)
  | getNumber
  | getText
  /-- Add one to a number, an exclamation mark to a text. -/
  | edit
  /-- Take the data away. -/
  | take
  deriving DecidableEq, Repr

/-- A use of the session of a handler. -/
inductive SessionUse where
  /-- End the connection, and with it the list of actions. -/
  | disconnect
  | setInterest (interest : EventMask)
  | connected
  /-- Number of live connections. -/
  | count
  | status
  | setStatus (status : Status)
  deriving DecidableEq, Repr

/-- An action. Where no descriptor is given, that of the session is meant. -/
inductive Action where
  | accept (label : Label)
  /-- Accept until nothing is left to accept, skipping clients that were turned away. -/
  | acceptAll (label : Label)
  /-- Accept under the given number if a connection has it. -/
  | acceptAt (fd : Descriptor) (label : Label)
  | disconnect (fd : Option Descriptor)
  | setInterest (fd : Option Descriptor) (interest : EventMask)
  | setTimeout (timeout : Int)
  | setListenHandler (label : Label)
  | cleanup
  /-- Run one round. -/
  | poll
  /-- Run a number of rounds. -/
  | serve (rounds : Nat)
  /-- Bind a second server to the same address. -/
  | bindAgain
  | inspect
  | serverData (use : DataUse)
  | connectionData (fd : Descriptor) (use : DataUse)
  | connection (fd : Option Descriptor) (use : Use)
  | session (use : SessionUse)
  /-- Do an action under limits. -/
  | limited (limits : Limits) (action : Action)
  deriving DecidableEq, Repr

/-- What came of accepting one client: its descriptor and the id of its connection. -/
abbrev Acceptance := Except Error (Descriptor × Nat)

/-- What is reported about an action. -/
inductive Report where
  /-- The action gives no answer. -/
  | nothing
  /-- The action was done. -/
  | done
  | failed (e : Error)
  | truth (b : Bool)
  | number (n : Nat)
  | text (s : String)
  | accepted (a : Acceptance)
  | acceptedAll (as : List Acceptance)
  /-- Number of ready descriptors. -/
  | ready (n : Nat)
  /-- How serving ended, and how often the predicate was asked. -/
  | served (ended : Server.Ended) (checks : Nat)
  | server (record : String) (address : Address) (port : UInt16) (maxClients : Nat)
  | noConnection
  | data (value : Option UserData)
  /-- The number and the text after an edit; one that is not there stays away. -/
  | edited (number : Option UInt64) (text : Option String)
  | fill (f : Fill)
  | bytes (data : Bytes)
  | buffer (b : RingBuffer)
  | label (l : Label)
  deriving Repr

end EventLoop.Script
