import EventLoop.DescriptorTable.Hasher
import EventLoop.Main
import EventLoop.Script.Playbook
import EventLoop.Transport.Rehearsal
import EventLoop.Proofs.RingBuffer.Layout
import EventLoop.Proofs.RingBuffer.Operations
import EventLoop.Proofs.RingBuffer.Transfers
import EventLoop.Proofs.RingBuffer.Queue
import EventLoop.Proofs.RingBuffer.Checked
import EventLoop.Proofs.DescriptorTable.Lookup
import EventLoop.Proofs.Kernel.Descriptors
import EventLoop.Proofs.Kernel.Holders
import EventLoop.Proofs.Kernel.Ledger
import EventLoop.Proofs.PollSet.View
import EventLoop.Proofs.PollSet.Interests
import EventLoop.Proofs.PollSet.Watchlist
import EventLoop.Proofs.Server.Effects
import EventLoop.Proofs.Server.Reachable
import EventLoop.Proofs.Server.Changes
import EventLoop.Proofs.Server.Pairing
import EventLoop.Proofs.Server.Rounds
import EventLoop.Proofs.Server.Ownership
import EventLoop.Proofs.Server.Limits
import EventLoop.Proofs.Server.Admission
import EventLoop.Proofs.Server.Identity
import EventLoop.Proofs.Server.Dispatch
import EventLoop.Proofs.Server.Cleanup
import EventLoop.Proofs.Server.Sessions
import EventLoop.Proofs.Server.Seniority
import EventLoop.Proofs.Server.Nesting
import EventLoop.Proofs.Script.Soundness
import EventLoop.Proofs.Echo.Pump
import EventLoop.Proofs.Socket.Transfers
import EventLoop.Proofs.Socket.Filling
import EventLoop.Proofs.Socket.Resets
import EventLoop.Proofs.RingBuffer.Flushing
import EventLoop.Proofs.RingBuffer.Growth
import EventLoop.Proofs.RingBuffer.Failures
import EventLoop.Proofs.Echo.Turn
import EventLoop.Proofs.Kernel.Accounts
import EventLoop.Proofs.Echo.Invariant
import EventLoop.Proofs.Echo.Calls
import EventLoop.Proofs.Echo.Handlers
import EventLoop.Proofs.Server.Binding
import EventLoop.Proofs.Echo.Runs
import EventLoop.Proofs.Echo.Conservation
import EventLoop.Proofs.Echo.OrderlyEnd
import EventLoop.Proofs.Echo.Watching
import EventLoop.Proofs.Echo.Wakeups
import EventLoop.Proofs.Echo.Progress
import EventLoop.Proofs.Echo.Effort
import EventLoop.Proofs.Echo.Books
import EventLoop.Proofs.Echo.Attempts
import EventLoop.Proofs.Echo.Tallies
import EventLoop.Proofs.Echo.Quiescence
import EventLoop.Proofs.Echo.Screening
import EventLoop.Proofs.Echo.Arrivals
import EventLoop.Proofs.Server.Waiting
import EventLoop.Proofs.Decimal.Numerals
import EventLoop.Proofs.Address.Grammar
import EventLoop.Proofs.Address.Printing
import EventLoop.Proofs.Echo.DeadPeers
import EventLoop.Proofs.Server.Edits
import EventLoop.Proofs.Socket.Locality
import EventLoop.Proofs.Echo.Locality
import EventLoop.Proofs.Echo.Isolation
import EventLoop.Proofs.Decimal.Integers
import EventLoop.Proofs.Environment.Words
import EventLoop.Proofs.Config.Limits
import EventLoop.Proofs.Log.Settings
import EventLoop.Proofs.Server.Serving
import EventLoop.Proofs.Echo.Chunks
