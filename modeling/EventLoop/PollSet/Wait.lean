import EventLoop.Host
import EventLoop.PollSet

/-! # Waiting on a readiness set

    A wait records a result for every entry and answers how many are not empty. A signal
    counts as a wait in which nothing happened; any other failure leaves the set as it was. -/

namespace EventLoop.PollSet

/-- What the set asks of the system: descriptor and interest of each entry. -/
def questions (p : PollSet) : List (Descriptor × EventMask) :=
  p.toList.map fun e => (e.fd, e.interest)

/-- Wait for at most the given time. -/
def waitTimeout (p : PollSet) (timeout : Int) (h : Host) : Except Error Nat × PollSet × Host :=
  match h.kernel.poll p.questions timeout with
  | .ok results => (.ok (results.filter fun r => !r.isEmpty).length, p.record results.toArray, h)
  | .error e =>
    if e = .interrupted then (.ok 0, p.clearResults, h.log .trace "poll interrupted by signal")
    else (.error (.os "poll" e), p, h)

/-- Wait for the time the set is configured with. -/
def wait (p : PollSet) (h : Host) : Except Error Nat × PollSet × Host := p.waitTimeout p.timeout h

end EventLoop.PollSet
