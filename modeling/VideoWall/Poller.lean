import VideoWall.Backend
import VideoWall.Stores

/-!
# Polling

The poller fetches the metadata of its targets again and again.  It is given plans at any time and
adopts the latest one when it gets to it.  A plan carries a generation, which rises whenever what
was asked for before is no longer wanted: on new targets, on a pause and on demand.  A fetch belongs
to the generation of the plan under which it was sent, and its result counts only while that is the
generation of the latest plan.  Polling ends for good when a plan asks for an interval of zero.
-/

namespace VideoWall

/-- A stream and where its metadata is. -/
structure Target where
  stream : StreamId
  metaUrl : String
  deriving Repr, Inhabited

instance : BEq Target where
  beq a b := a.stream == b.stream && a.metaUrl == b.metaUrl

/-- What is to be polled, and how. -/
structure Plan where
  generation : Nat := 0
  running : Bool := false
  interval : Span := .ofMillis 500
  timeout : Span := .ofMillis 700
  targets : List Target := []
  deriving Repr, Inhabited

/-- A plan that is asked for.  `invalidate` drops what was asked for before even if the targets are
the same. -/
structure PlanUpdate where
  running : Bool
  interval : Span
  timeout : Span
  targets : List Target
  invalidate : Bool
  deriving Repr, Inhabited

/-- The plan after an update. -/
def Plan.update (p : Plan) (u : PlanUpdate) : Plan where
  generation :=
    if u.invalidate || (p.running && !u.running) || p.targets != u.targets then p.generation + 1
    else p.generation
  running := u.running
  interval := u.interval
  timeout := u.timeout
  targets := u.targets

/-- A request for metadata that has not been answered yet. -/
structure Fetch where
  target : Target
  generation : Nat
  reply : Reply
  deriving Repr, Inhabited

/-- A timer that fires at `next` and then every `period`. -/
structure Ticker where
  period : Nat
  next : Nat
  period_pos : 0 < period
  deriving DecidableEq, Repr

/-- The timer before any plan is asked for. -/
def Ticker.initial : Ticker := ⟨500, 0, Nat.succ_pos 499⟩

/-- A timer that fires at once and then at every interval; there is none that fires without end. -/
def Ticker.start? (interval : Span) (now : Nat) : Option Ticker :=
  if h : 0 < interval.ceilMillis then some ⟨interval.ceilMillis, now, h⟩ else none

/-- The same timer, set to fire a period from now. -/
def Ticker.rearm (now : Nat) (t : Ticker) : Ticker := { t with next := now + t.period }

structure Poller where
  /-- The latest plan. -/
  plan : Plan := {}
  /-- The plan that is being carried out. -/
  adopted : Plan := {}
  /-- `none` once polling has ended. -/
  ticker : Option Ticker := some .initial
  inFlight : List Fetch := []
  deriving Repr, Inhabited

namespace Poller

/-- Replaces the latest plan. -/
def apply (u : PlanUpdate) (p : Poller) : Poller := { p with plan := p.plan.update u }

/-- Does the latest plan start the timer anew?  It does when polling resumes, when the interval is
another one and when the generation is. -/
def restarts (p : Poller) : Bool :=
  (p.plan.running && !p.adopted.running) || p.plan.interval != p.adopted.interval ||
    p.plan.generation != p.adopted.generation

/-- Does the latest plan drop the fetches under way?  It does when they are of another generation
and when it does not run. -/
def cancels (p : Poller) : Bool :=
  p.plan.generation != p.adopted.generation || !p.plan.running

/-- Turns to the latest plan.  A timer that is started anew fires at once; if it is to have no period
at all, polling ends for good, and only the fetches still under way are answered. -/
def adopt (now : Nat) (p : Poller) : Poller :=
  match p.ticker with
  | none => p
  | some ticker =>
    { plan := p.plan
      adopted := p.plan
      ticker := if p.restarts then Ticker.start? p.plan.interval now else some ticker
      inFlight := if p.cancels then [] else p.inFlight }

/-- Is a fetch of this stream under way? -/
def isBusy (p : Poller) (id : StreamId) : Bool := p.inFlight.any (·.target.stream == id)

/-- The targets to fetch next, each stream once: all that are not under way, while the plan runs. -/
def wanted (p : Poller) : List Target :=
  if p.adopted.running then
    StreamId.distinctBy (·.stream) (p.adopted.targets.filter (fun t => !p.isBusy t.stream))
  else []

/-- Has the timer run out? -/
def isDue (now : Nat) (p : Poller) : Bool := p.ticker.any (·.next ≤ now)

/-- The fetches of what is wanted; `send` asks the backend. -/
def started (send : Target → Reply) (p : Poller) : List Fetch :=
  p.wanted.map fun target => { target, generation := p.adopted.generation, reply := send target }

/-- Fetches what is wanted. -/
def tick (send : Target → Reply) (now : Nat) (p : Poller) : Poller where
  plan := p.plan
  adopted := p.adopted
  ticker := p.ticker.map (·.rearm now)
  inFlight := p.inFlight ++ p.started send

/-- Does the result of this fetch still count? -/
def isCurrent (p : Poller) (f : Fetch) : Bool := f.generation == p.plan.generation

/-- The fetches that are answered by now. -/
def answered (now : Nat) (p : Poller) : List Fetch := p.inFlight.filter (·.reply.due ≤ now)

/-- Takes the fetches out that are answered by now. -/
def collect (now : Nat) (p : Poller) : Poller :=
  { p with inFlight := p.inFlight.filter (fun f => !(f.reply.due ≤ now)) }

end Poller

/-- What a fetch leaves in the stores when it ends: metadata and a good outcome, or the failure.  A
fetch that is no longer current leaves nothing. -/
def Fetch.store (f : Fetch) (current : Bool) (now : Instant) (s : Stores) : Stores :=
  if !current then s
  else
    let id := f.target.stream
    match decodeMetadata f.reply.outcome with
    | .ok payload =>
      let (cache, kept) := s.cache.putIf ⟨id, payload, now⟩ current
      if kept then { cache, board := (s.board.recordIf id (.ok now) current).1 }
      else { s with cache }
    | .error failure =>
      let message := (DashboardError.metadataFetch f.target.metaUrl failure).message
      { s with board := (s.board.recordIf id (.failed now message) current).1 }

end VideoWall
