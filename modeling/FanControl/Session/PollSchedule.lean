import FanControl.Session.Observation

/-!
# The schedule of a poll loop

A poll loop asks for the status at the moments of its ticker, but never before the answer to its
last request is in. So when it asks follows from its period and from how long the answers take, and
from nothing else: `PollRound.nth` goes through the requests one by one, without a clock that runs
beside them.

What comes of the requests follows from the device. As long as nobody else asks it for anything, it
goes through the memories `DeviceModel.fetched` and answers `DeviceModel.reply`.

## Main definitions

* `PollRound.nth`: the requests of a poll loop;
* `PollSchedule`: what is expected of the times at which requests begin;
* `StatusFeed.ExtendsBy`: what is expected of what is published;
* `DeviceModel.reply`, `DeviceModel.statuses`: what the device answers, and what of it is good;
* `Timeline.startPolling`: a poll loop begins.
-/

namespace FanControl

/-! ### Requests -/

/-- A request of a poll loop. -/
structure PollRound where
  /-- The ticker, at the moment that the request serves. -/
  ticker : Ticker
  /-- From when on nothing else is under way. -/
  ready : Nat

namespace PollRound

/-- The moment that the request serves. -/
def due (r : PollRound) : Nat := r.ticker.due

/-- When the request begins: at its moment, or as soon as nothing else is under way. -/
def begun (r : PollRound) : Nat := max r.ready r.due

/-- The request after one that is answered after some time. -/
def next (r : PollRound) (delay : Nat) : PollRound := ⟨r.ticker.fire r.begun, r.begun + delay⟩

/-- The requests of a loop that starts at `now`, if the answers take so long. -/
def nth (period now : Nat) (delay : Nat → Nat) : Nat → PollRound
  | 0 => ⟨.start period now, now⟩
  | k + 1 => (nth period now delay k).next (delay k)

end PollRound

/-- What is expected of requests that serve the moments `due` of a period from `now` on, begin at
the times `begun`, and take as long as `delay` tells. -/
structure PollSchedule (period now : Nat) (delay due begun : Nat → Nat) : Prop where
  /-- The first request begins at once. -/
  first : begun 0 = now
  /-- No request begins before the one before it has ended. -/
  apart (k : Nat) : begun k + delay k ≤ begun (k + 1)
  /-- A request begins when the one before it ends, or else on the grid of the period. -/
  prompt (k : Nat) : begun (k + 1) = begun k + delay k ∨ ∃ n, begun (k + 1) = now + n * period
  /-- The moments that are served are on the grid of the period. -/
  grid (k : Nat) : ∃ n, due k = now + n * period
  /-- No moment is served twice, and none after a later one. -/
  increasing (k : Nat) : due k < due (k + 1)
  /-- No moment is served before it has come. -/
  served (k : Nat) : due k ≤ begun k

/-- What is expected of a feed to which some more statuses have been published one by one: each of
them counts, and the last one shows. -/
structure StatusFeed.ExtendsBy (f g : StatusFeed) (statuses : List Status) : Prop where
  latest : g.latest = statuses.getLast?.or f.latest
  version : g.version = f.version + statuses.length

/-! ### Answers -/

namespace DeviceModel

variable {σ : Type} (D : DeviceModel σ) (x : σ)

/-- The memory of a device that has been asked for its status so often, and for nothing else. -/
def fetched : Nat → σ
  | 0 => x
  | k + 1 => (D.fetch (fetched k)).2

/-- The reply to a request for the status after so many others. -/
def reply (k : Nat) : Reply Status := (D.fetch (D.fetched x k)).1

/-- The reports among the first so many replies, in order. -/
def statuses (n : Nat) : List Status :=
  (List.range n).filterMap fun k => (D.reply x k).answer.toOption

end DeviceModel

namespace Timeline

variable {σ : Type} (D : DeviceModel σ)

/-- A poll loop begins, in place of the one that may be running. -/
def startPolling (period : Nat) (w : Timeline σ) : Timeline σ :=
  settle D (w.mapSession fun s => { s with poller := s.poller.start period })

/-- The requests of a poll loop that begins now. -/
def pollRound (period : Nat) (w : Timeline σ) (k : Nat) : PollRound :=
  .nth period w.now (fun j => (D.reply w.device j).delay) k

end Timeline

end FanControl
