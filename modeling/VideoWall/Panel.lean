import VideoWall.Stores

/-!
# The metadata panel of a stream

A panel shows the last good metadata of a stream, if there is any, and in its caption how current
that is.  A failure makes the panel stale and leaves the metadata in place.
-/

namespace VideoWall

/-- What stands in a panel without metadata. -/
def noMetadata : String := "No metadata yet"

/-- The time from `last` to `now` in seconds, to a tenth; never negative.  The milliseconds are
divided by a thousand in floating point, and the exact quotient is rounded. -/
def age (last now : Instant) : String :=
  let ms := Binary64.rankOfRatio (last.millisBetween now).toNat 1
  (Binary64.number false (Binary64.rankDiv ms (Binary64.rankOfRatio 1000 1))).oneDecimal

/-- How long ago the last update was. -/
def describeAge (last : Option Instant) (now : Instant) : String :=
  match last with
  | some time => age time now ++ "s ago"
  | none => "unknown"

/-- How current a panel is. -/
inductive PanelStatus where
  /-- Nothing has been fetched yet. -/
  | waiting
  | fresh (updatedAt : Instant)
  /-- The latest fetch failed. -/
  | stale (message : String) (failedAt : Instant) (lastUpdate : Option Instant)
  deriving DecidableEq, Repr, Inhabited

namespace PanelStatus

def caption (now : Instant) : PanelStatus → String
  | waiting => "Waiting for metadata"
  | fresh updatedAt => "Updated " ++ updatedAt.clockText
  | stale message _ lastUpdate =>
    message ++ " (last update " ++ describeAge lastUpdate now ++ ")"

def isStale : PanelStatus → Bool
  | stale .. => true
  | _ => false

def toJson : PanelStatus → Json
  | waiting => .obj [("state", .str "waiting")]
  | fresh updatedAt => .obj [("state", .str "fresh"), ("updated_at", updatedAt.toJson)]
  | stale message failedAt lastUpdate =>
    .obj [("state", .str "stale"), ("message", .str message), ("failed_at", failedAt.toJson),
      ("last_update", .ofOption Instant.toJson lastUpdate)]

/-- The status of a panel: the outcome of the latest fetch, if there was one, decides. -/
def of (status : Option FetchStatus) (lastUpdate : Option Instant) : PanelStatus :=
  match status, lastUpdate with
  | some (.failed time message), _ => stale message time lastUpdate
  | some (.ok time), _ => fresh time
  | none, some time => fresh time
  | none, none => waiting

end PanelStatus

structure Panel where
  stream : StreamId
  payload : Option Json
  /-- The metadata over several lines, or a notice that there is none. -/
  body : String
  status : PanelStatus
  caption : String
  deriving Repr, Inhabited

namespace Panel

def build (stores : Stores) (now : Instant) (id : StreamId) : Panel :=
  let record := stores.cache.get? id
  let status := PanelStatus.of (stores.board.get? id) (record.map (·.fetchedAt))
  { stream := id
    payload := record.map (·.payload)
    body := match record with
      | some r => r.payload.pretty
      | none => noMetadata
    status
    caption := status.caption now }

def toJson (p : Panel) : Json :=
  .obj [("stream_id", .str p.stream.raw), ("payload", .ofOption id p.payload),
    ("body", .str p.body), ("status", p.status.toJson), ("caption", .str p.caption)]

end Panel

end VideoWall
