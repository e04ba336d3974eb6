import VideoWall.Run.Session
import VideoWall.Run.Stores

/-!
# Running a poller without a dashboard
-/

namespace VideoWall.Run

inductive PollAction where
  | serve (url : String) (answer : Answer)
  | advance (ms : Nat)
  | apply (update : PlanUpdate)
  | store (action : StoreAction)
  | inspect (ids : List StreamId)
  deriving Repr

/-- What is known of a stream. -/
structure Inspection where
  record : Option MetadataRecord
  status : Option FetchStatus
  caption : String
  deriving Repr

inductive PollOutcome where
  | nothing
  | store (outcome : StoreOutcome)
  | inspected (is : List Inspection)
  deriving Repr

structure PollReport where
  time : Nat
  outcome : PollOutcome
  generation : Nat
  requests : List Request
  deriving Repr

def inspect (t : Timeline) (id : StreamId) : Inspection where
  record := t.stores.cache.get? id
  status := t.stores.board.get? id
  caption := (Panel.build t.stores t.instant id).caption

def PollAction.perform (t : Timeline) : PollAction → Timeline × PollOutcome
  | serve url answer => (t.serve url answer, .nothing)
  | advance ms => (t.elapse ms, .nothing)
  | apply update => (t.apply update, .nothing)
  | store action =>
    let (stores, outcome) := action.apply t.stores
    ({ t with stores }, .store outcome)
  | inspect ids => (t, .inspected (ids.map (Run.inspect t)))

/-- Takes an action and lets happen all that is due. -/
def pollStep (t : Timeline) (a : PollAction) : Timeline × PollReport :=
  let (after, outcome) := a.perform t
  let after := after.settle
  (after,
    { time := after.now
      outcome
      generation := after.poller.plan.generation
      requests := requestsSince after.log t.log.length })

/-- Takes actions from the start of the clock. -/
def pollRun (start : Int) (actions : List PollAction) : List PollReport :=
  (actions.foldl
    (fun (acc : Timeline × List PollReport) a =>
      let (t, report) := pollStep acc.1 a
      (t, report :: acc.2))
    ({ start }, [])).2.reverse

end VideoWall.Run
