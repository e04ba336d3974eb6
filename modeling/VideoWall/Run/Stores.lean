import VideoWall.Grid

/-!
# Working on the stores by hand
-/

namespace VideoWall.Run

inductive StoreAction where
  | put (record : MetadataRecord) (current : Bool)
  | get (id : StreamId)
  | record (id : StreamId) (status : FetchStatus) (current : Bool)
  | status (id : StreamId)
  | resetCache
  | resetStatus
  | panel (id : StreamId) (now : Instant)
  | grid (baseUrl : String) (selection : List StreamId) (config : RefreshConfig)
      (layoutVersion : Nat) (now : Instant)
  deriving Repr

inductive StoreOutcome where
  | nothing
  | written (done : Bool)
  | record (r : Option MetadataRecord)
  | status (s : Option FetchStatus)
  | panel (p : Panel)
  | grid (g : Grid)
  deriving Repr

def StoreAction.apply (s : Stores) : StoreAction → Stores × StoreOutcome
  | put r current =>
    let (cache, done) := s.cache.putIf r current
    ({ s with cache }, .written done)
  | get id => (s, .record (s.cache.get? id))
  | record id outcome current =>
    let (board, done) := s.board.recordIf id outcome current
    ({ s with board }, .written done)
  | status id => (s, .status (s.board.get? id))
  | resetCache => ({ s with cache := .empty }, .nothing)
  | resetStatus => ({ s with board := .empty }, .nothing)
  | panel id now => (s, .panel (.build s now id))
  | grid baseUrl selection config layoutVersion now =>
    (s, .grid (.build { baseUrl, config, stores := s, layoutVersion, now } selection))

/-- What comes of each of a list of actions. -/
def storeRun (actions : List StoreAction) : List StoreOutcome :=
  (actions.foldl
    (fun (acc : Stores × List StoreOutcome) a =>
      let (s, outcome) := a.apply acc.1
      (s, outcome :: acc.2))
    ({}, [])).2.reverse

end VideoWall.Run
