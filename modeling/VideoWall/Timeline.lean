import VideoWall.Poller

/-!
# Polling in time

A clock that counts whole milliseconds, the backend, the poller and the stores it fills.  All that
is due at a moment happens at that moment: the poller turns to the latest plan, then answers arrive,
then the timer fires, then the answers arrive that took no time.
-/

namespace VideoWall

/-- A request that was sent. -/
structure Request where
  time : Nat
  url : String
  deriving DecidableEq, Repr, Inhabited

structure Timeline where
  /-- When the clock began, in milliseconds since 1970. -/
  start : Int := 1700000000000
  /-- Milliseconds since then. -/
  now : Nat := 0
  backend : Backend := {}
  /-- All requests sent so far, latest first. -/
  log : List Request := []
  poller : Poller := {}
  stores : Stores := {}
  deriving Repr, Inhabited

namespace Timeline

def instant (t : Timeline) : Instant := .ofMillis (t.start + t.now)

def serve (url : String) (a : Answer) (t : Timeline) : Timeline :=
  { t with backend := t.backend.serve url a }

/-- What comes of a request that is sent now. -/
def ask (t : Timeline) (url : String) (timeout : Span) : Reply :=
  (t.backend.answer url).reply t.now timeout

/-- Notes that requests are sent now. -/
def note (urls : List String) (t : Timeline) : Timeline :=
  { t with log := (urls.map fun url => ⟨t.now, url⟩).reverse ++ t.log }

def apply (u : PlanUpdate) (t : Timeline) : Timeline := { t with poller := t.poller.apply u }

def adopt (t : Timeline) : Timeline := { t with poller := t.poller.adopt t.now }

/-- Stores what the answers that are due give. -/
def deliver (t : Timeline) : Timeline :=
  { t with
    poller := t.poller.collect t.now
    stores := (t.poller.answered t.now).foldl
      (fun s f => f.store (t.poller.isCurrent f) t.instant s) t.stores }

/-- Fetches what is wanted. -/
def tick (t : Timeline) : Timeline :=
  let sent := t.note (t.poller.wanted.map (·.metaUrl))
  { sent with
    poller := t.poller.tick (fun target => t.ask target.metaUrl t.poller.adopted.timeout) t.now }

def tickIfDue (t : Timeline) : Timeline := if t.poller.isDue t.now then t.tick else t

/-- Lets happen all that is due. -/
def settle (t : Timeline) : Timeline := t.adopt.deliver.tickIfDue.deliver

/-- The next millisecond. -/
def step (t : Timeline) : Timeline := { t with now := t.now + 1 }.settle

/-- `ms` milliseconds later. -/
def elapse : Nat → Timeline → Timeline
  | 0, t => t
  | ms + 1, t => elapse ms t.step

end Timeline

end VideoWall
