import FanControl.Clamp
import FanControl.Status

/-!
# Polling

The device is asked for its status on a period, and the latest answer is published. At most one
request is under way: what falls due in the meantime is passed over. An answer that does not come
leaves the published status as it is.

A `Ticker` says when the next request is due, a `PollLoop` where the loop stands, and a
`StatusFeed` is what is published, together with what its one reader has seen of it. The reader
looks when it gets to it, and then sees only the latest status.
-/

namespace FanControl

/-- The next of a sequence of moments, a period apart. -/
structure Ticker where
  due : Nat
  period : Nat
  period_pos : 0 < period
deriving Repr

namespace Ticker

/-- The first moment is now. A period lasts at least a millisecond. -/
def start (period now : Nat) : Ticker := ⟨now, atLeastOne period, atLeastOne_pos period⟩

/-- So many milliseconds after a moment count as the moment itself. -/
def grace : Nat := 5

/-- The moment after one that is noticed at `now`. When it is noticed late, all those that have
gone by are left out, and the sequence stays where it was. -/
def fire (t : Ticker) (now : Nat) : Ticker :=
  if now ≤ t.due + grace then { t with due := t.due + t.period }
  else { t with due := now + t.period - (now - t.due) % t.period }

end Ticker

/-- Where a poll loop stands; `ε` is the type of failures of requests. -/
inductive PollLoop (ε : Type) where
  /-- The loop has been set up and has not run yet. -/
  | starting (period : Nat)
  /-- The loop waits for its next moment. -/
  | waiting (ticker : Ticker)
  /-- The loop waits for an answer, which comes at a known time. -/
  | fetching (ticker : Ticker) (arrival : Nat) (answer : Except ε Status)

namespace PollLoop

variable {ε : Type}

/-- Whether a request is under way. -/
def isFetching : PollLoop ε → Bool
  | fetching .. => true
  | _ => false

/-- When the loop goes on. -/
def wake (now : Nat) : PollLoop ε → Nat
  | starting _ => now
  | waiting ticker => ticker.due
  | fetching _ arrival _ => arrival

end PollLoop

/-- The poll loop, if one is running, and a count of its requests. -/
structure Poller (ε : Type) where
  loop : Option (PollLoop ε)
  /-- Requests of loops that have been replaced and are not gone yet. -/
  abandoned : Nat
  /-- Requests so far. -/
  fetches : Nat
  /-- The largest number of requests under way at one time. -/
  mostInFlight : Nat

namespace Poller

variable {ε : Type}

/-- No loop has been running. -/
def idle : Poller ε := ⟨none, 0, 0, 0⟩

/-- Whether a loop is running. -/
def isRunning (p : Poller ε) : Bool := p.loop.isSome

/-- Sets up a loop in place of the one that may be running. A request of that one stays under way
until the new loop has made its first. -/
def start (p : Poller ε) (period : Nat) : Poller ε :=
  { p with
    loop := some (.starting period)
    abandoned := if p.loop.any PollLoop.isFetching then 1 else 0 }

/-- Ends the loop, and its request with it. -/
def stop (p : Poller ε) : Poller ε := { p with loop := none, abandoned := 0 }

/-- Counts a request. -/
def countFetch (p : Poller ε) : Poller ε :=
  { p with
    abandoned := 0
    fetches := p.fetches + 1
    mostInFlight := max p.mostInFlight (p.abandoned + 1) }

end Poller

/-- The published status. -/
structure StatusFeed where
  latest : Option Status
  /-- How often a status has been published. -/
  version : Nat
  /-- How many of these the reader has seen or passed over, if there is a reader. -/
  seen : Option Nat
deriving DecidableEq, Repr

namespace StatusFeed

/-- Nothing has been published. -/
def empty : StatusFeed := ⟨none, 0, none⟩

/-- Publishes a status. -/
def publish (f : StatusFeed) (s : Status) : StatusFeed :=
  { f with latest := some s, version := f.version + 1 }

/-- With a reader, for whom all that has been published so far is over. -/
def subscribe (f : StatusFeed) : StatusFeed := { f with seen := some f.version }

/-- Without a reader. -/
def unsubscribe (f : StatusFeed) : StatusFeed := { f with seen := none }

/-- The reader looks: it gets the latest status, unless it has seen that before. -/
def take (f : StatusFeed) : Option Status × StatusFeed :=
  match f.seen with
  | some seen => if seen < f.version then (f.latest, f.subscribe) else (none, f)
  | none => (none, f)

end StatusFeed

end FanControl
