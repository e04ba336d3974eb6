import VideoWall.Http.Router

/-!
# Running a session

A run is a list of steps.  A step takes an action and lets happen all that is due.  An action that
waits, for a backend or for the clock, takes as long as it waits, unless it is left in the
background under a tag, to be reported by the step during which it ends.
-/

namespace VideoWall.Run

/-- Something done to a session. -/
inductive Action where
  | serve (url : String) (answer : Answer)
  | advance (ms : Nat)
  | mount
  | rescan
  | setBaseUrl (url : String)
  | select (streams : List String)
  | updateConfig (patch : ConfigPatch)
  | snapshot (time : Option Instant)
  | panels (time : Option Instant)
  | catalog
  | http (request : Http.Request)
  deriving Repr

structure Step where
  action : Action
  /-- The tag of a step that is not waited for. -/
  background : Option String := none
  deriving Repr

/-- What comes of an action. -/
inductive Outcome where
  | nothing
  | done (result : Except DashboardError Unit)
  | config (c : RefreshConfig)
  | snapshot (s : Snapshot)
  | panels (s : PanelsSnapshot)
  | catalog (streams : Option (List StreamId))
  | response (r : Http.Response)
  deriving Repr

/-- How the end of a call is told: as such, or as a response. -/
inductive Form where
  | plain
  | web
  deriving DecidableEq, Repr

def Form.outcome : Form → Except DashboardError Snapshot → Outcome
  | plain, result => .done (result.map fun _ => ())
  | web, result => .response (Http.ofResult result).shared

/-- An action is finished at once, or waits for the clock or for a call. -/
inductive Progress where
  | finished (outcome : Outcome)
  | clock (time : Nat)
  | call (call : Nat) (form : Form)
  deriving Repr

/-- Begins an action. -/
def begin (s : Session) : Action → Session × Progress
  | .serve url answer => (s.serve url answer, .finished .nothing)
  | .advance ms => (s, .clock (s.timeline.now + ms))
  | .mount =>
    let (s, call) := s.mount
    (s, .call call .plain)
  | .rescan =>
    let (s, call) := s.rescan
    (s, .call call .plain)
  | .setBaseUrl url =>
    match s.setBaseUrl url with
    | .ok (s, call) => (s, .call call .plain)
    | .error e => (s, .finished (.done (.error e)))
  | .select streams =>
    match s.select streams with
    | .ok s => (s, .finished (.done (.ok ())))
    | .error e => (s, .finished (.done (.error e)))
  | .updateConfig patch =>
    let s := s.updateConfig patch
    (s, .finished (.config s.dashboard.config))
  | .snapshot time => (s, .finished (.snapshot (s.snapshot (time.getD s.now))))
  | .panels time => (s, .finished (.panels (s.panels (time.getD s.now))))
  | .catalog => (s, .finished (.catalog s.dashboard.catalog.streams?))
  | .http request =>
    match Http.handle s request with
    | (s, .answered r) => (s, .finished (.response r))
    | (s, .awaiting call) => (s, .call call .web)

/-- Lets pass the time that an action takes. -/
def Progress.pass (s : Session) : Progress → Session
  | finished _ => s
  | clock time => s.elapse (time - s.timeline.now)
  | call c _ => s.await c

/-- When an action ended and what has come of it, if it has ended. -/
def Progress.ended? (s : Session) : Progress → Option (Nat × Outcome)
  | finished outcome => some (s.timeline.now, outcome)
  | clock time => if time ≤ s.timeline.now then some (time, .nothing) else none
  | call c form => (s.completion? c).map fun e => (e.time, form.outcome e.result)

/-- An action in the background. -/
structure Waiting where
  tag : String
  progress : Progress
  deriving Repr

/-- An action in the background that has ended. -/
structure Finished where
  time : Nat
  tag : String
  outcome : Outcome
  deriving Repr

def Waiting.finished? (s : Session) (w : Waiting) : Option Finished :=
  (w.progress.ended? s).map fun (time, outcome) => ⟨time, w.tag, outcome⟩

structure Report where
  /-- The clock after the step. -/
  time : Nat
  outcome : Outcome
  /-- The requests sent during the step, by time and then by address. -/
  requests : List Request
  /-- The actions in the background that ended during the step, by time and then by tag. -/
  finished : List Finished
  deriving Repr

structure State where
  session : Session
  waiting : List Waiting := []
  deriving Repr

/-- The requests sent since the log had `known` entries. -/
def requestsSince (log : List Request) (known : Nat) : List Request :=
  (log.take (log.length - known)).mergeSort fun a b =>
    a.time < b.time || (a.time == b.time && a.url ≤ b.url)

def sortFinished (fs : List Finished) : List Finished :=
  fs.mergeSort fun a b => a.time < b.time || (a.time == b.time && a.tag ≤ b.tag)

/-- Takes a step. -/
def step (state : State) (st : Step) : State × Report :=
  let known := state.session.timeline.log.length
  let (begun, progress) := begin state.session st.action
  let (session, waiting, outcome) : Session × List Waiting × Outcome :=
    match st.background with
    | none =>
      let session := (progress.pass begun).settle
      (session, state.waiting, ((progress.ended? session).map (·.2)).getD .nothing)
    | some tag => (begun.settle, ⟨tag, progress⟩ :: state.waiting, .nothing)
  ({ session, waiting := waiting.filter fun w => (w.progress.ended? session).isNone },
    { time := session.timeline.now
      outcome
      requests := requestsSince session.timeline.log known
      finished := sortFinished (waiting.filterMap (·.finished? session)) })

/-- Takes steps from an initial session. -/
def run (config : AppConfig) (start : Int) (steps : List Step) : List Report :=
  (steps.foldl
    (fun (acc : State × List Report) st =>
      let (state, report) := step acc.1 st
      (state, report :: acc.2))
    ({ session := .new config start }, [])).2.reverse

end VideoWall.Run
