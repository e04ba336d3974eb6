import VideoWall.Snapshot
import VideoWall.Timeline

/-!
# A session

A dashboard at work: its state, the poller it drives and the discoveries that are under way.  Every
operation that changes what is to be polled hands the poller a new plan at once.  Mounting,
rescanning and switching backends are calls: each sends one discovery and is completed when its
answer is due, with a snapshot of that moment.
-/

namespace VideoWall

/-- A discovery that has not been answered yet. -/
structure Discovery where
  /-- The call that waits for it. -/
  call : Nat
  baseUrl : String
  /-- Whether the selection is kept as far as the new catalog has it. -/
  keepSelection : Bool
  reply : Reply
  deriving Repr, Inhabited

/-- The end of a call. -/
structure Completion where
  time : Nat
  call : Nat
  result : Except DashboardError Snapshot
  deriving Repr, Inhabited

structure Session where
  dashboard : Dashboard
  timeline : Timeline
  /-- The discoveries under way, in the order in which they were sent. -/
  discoveries : List Discovery := []
  /-- How many calls were made. -/
  calls : Nat := 0
  /-- The calls that have ended, latest first. -/
  completed : List Completion := []
  deriving Repr, Inhabited

namespace Session

/-- A session on a dashboard that has not been mounted, at the start of the clock. -/
def new (config : AppConfig) (start : Int) : Session where
  dashboard := .ofConfig config
  timeline := { start }

def now (s : Session) : Instant := s.timeline.instant

def snapshot (s : Session) (now : Instant) : Snapshot :=
  s.dashboard.snapshot s.timeline.stores now

def panels (s : Session) (now : Instant) : PanelsSnapshot :=
  s.dashboard.panels s.timeline.stores now

/-- The session with another dashboard, whose plan the poller is given. -/
def become (s : Session) (d : Dashboard) (invalidate : Bool) : Session :=
  { s with dashboard := d, timeline := s.timeline.apply (d.update invalidate) }

/-! ## Operations -/

def serve (url : String) (a : Answer) (s : Session) : Session :=
  { s with timeline := s.timeline.serve url a }

def select (s : Session) (raws : List String) : Except DashboardError Session :=
  match s.dashboard.select raws with
  | .ok d => .ok (s.become d false)
  | .error e => .error e

def updateConfig (s : Session) (p : ConfigPatch) : Session :=
  s.become (s.dashboard.updateConfig p) false

/-- Sends a discovery and returns the call that waits for it. -/
def discover (s : Session) (keep : Bool) : Session × Nat :=
  let url := streamsUrl s.dashboard.baseUrl
  let reply := s.timeline.ask url s.dashboard.config.timeout
  ({ s with
      timeline := s.timeline.note [url]
      discoveries := s.discoveries ++ [⟨s.calls, s.dashboard.baseUrl, keep, reply⟩]
      calls := s.calls + 1 }, s.calls)

/-- The first discovery of a session. -/
def mount (s : Session) : Session × Nat := s.discover false

/-- Reads the catalog again and keeps what it still has of the selection. -/
def rescan (s : Session) : Session × Nat := s.discover true

/-- Drops all that is known of the streams. -/
def forget (s : Session) : Session := { s with timeline := { s.timeline with stores := {} } }

/-- Turns to another backend: the plan is invalidated before the stores are emptied, so that no
fetch under way fills them again. -/
def setBaseUrl (s : Session) (text : String) : Except DashboardError (Session × Nat) :=
  match s.dashboard.switch text with
  | .ok d => .ok ((s.become d true).forget.discover false)
  | .error e => .error e

/-! ## Time -/

/-- Applies the answer to a discovery and ends the call that waits for it. -/
def finish (s : Session) (d : Discovery) : Session :=
  let result := decodeStreams d.reply.outcome
  let after :=
    match s.dashboard.discovered d.baseUrl d.keepSelection result with
    | some dashboard => s.become dashboard false
    | none => s
  let answer :=
    match s.dashboard.verdict d.baseUrl result with
    | .ok () => .ok (after.snapshot after.now)
    | .error e => .error e
  { after with completed := ⟨s.timeline.now, d.call, answer⟩ :: after.completed }

/-- Ends the calls whose answer is due. -/
def deliver (s : Session) : Session :=
  let due := s.discoveries.filter (·.reply.due ≤ s.timeline.now)
  due.foldl finish
    { s with discoveries := s.discoveries.filter (fun d => !(d.reply.due ≤ s.timeline.now)) }

/-- Lets happen all that is due. -/
def settle (s : Session) : Session :=
  let s := s.deliver
  { s with timeline := s.timeline.settle }

/-- The next millisecond. -/
def step (s : Session) : Session :=
  { s with timeline := { s.timeline with now := s.timeline.now + 1 } }.settle

/-- `ms` milliseconds later. -/
def elapse : Nat → Session → Session
  | 0, s => s
  | ms + 1, s => elapse ms s.step

/-- When the answer is due for which a call waits. -/
def due? (s : Session) (call : Nat) : Option Nat :=
  (s.discoveries.find? (·.call == call)).map (·.reply.due)

/-- Puts the discovery of a call before all others. -/
def prefer (call : Nat) (s : Session) : Session :=
  { s with discoveries :=
      s.discoveries.filter (·.call == call) ++ s.discoveries.filter (·.call != call) }

/-- Lets pass the time until a call has ended.  The answer that is waited for comes before those
that are due in the same millisecond. -/
def await (s : Session) (call : Nat) : Session :=
  match s.due? call with
  | none => s.settle
  | some due => ((s.prefer call).settle).elapse (due - s.timeline.now)

/-- How a call ended, if it has. -/
def completion? (s : Session) (call : Nat) : Option Completion :=
  s.completed.find? (·.call == call)

end Session

end VideoWall
