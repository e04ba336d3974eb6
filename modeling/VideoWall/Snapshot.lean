import VideoWall.Config.Format
import VideoWall.Dashboard
import VideoWall.Grid

/-!
# What is on the page

A snapshot is all that the page shows; the panels alone are what changes between two layouts.
-/

namespace VideoWall

inductive View where
  | loading
  | discoveryFailed (message : String)
  | emptyCatalog
  | emptySelection
  | grid (g : Grid)
  deriving Repr, Inhabited

structure Snapshot where
  baseUrl : String
  config : RefreshConfig
  catalog : List StreamId
  selection : List StreamId
  layoutVersion : Nat
  view : View
  deriving Repr, Inhabited

structure PanelsSnapshot where
  layoutVersion : Nat
  intervalMs : Nat
  running : Bool
  panels : List Panel
  deriving Repr, Inhabited

namespace Dashboard

def context (d : Dashboard) (stores : Stores) (now : Instant) : Grid.Context where
  baseUrl := d.baseUrl
  config := d.config
  stores
  layoutVersion := d.layoutVersion
  now

def view (d : Dashboard) (stores : Stores) (now : Instant) : View :=
  match d.catalog with
  | .pending => .loading
  | .failed message => .discoveryFailed message
  | .loaded streams =>
    if streams.isEmpty then .emptyCatalog
    else if d.selection.isEmpty then .emptySelection
    else .grid (Grid.build (d.context stores now) d.selection)

def snapshot (d : Dashboard) (stores : Stores) (now : Instant) : Snapshot where
  baseUrl := d.baseUrl
  config := d.config
  catalog := d.catalog.streams?.getD []
  selection := d.selection
  layoutVersion := d.layoutVersion
  view := d.view stores now

def panels (d : Dashboard) (stores : Stores) (now : Instant) : PanelsSnapshot where
  layoutVersion := d.layoutVersion
  intervalMs := d.config.intervalMs
  running := d.config.running
  panels :=
    if d.config.showMeta && d.catalog.isLoaded then d.selection.map (Panel.build stores now)
    else []

end Dashboard

/-! ## JSON -/

/-- A list of ids as they were spelled. -/
def idsToJson (ids : List StreamId) : Json := .arr (ids.map fun id => .str id.raw)

def View.toJson : View → Json
  | loading => .obj [("state", .str "loading")]
  | discoveryFailed message => .obj [("state", .str "discovery_failed"), ("message", .str message)]
  | emptyCatalog => .obj [("state", .str "empty_catalog")]
  | emptySelection => .obj [("state", .str "empty_selection")]
  | grid g => .obj (("state", .str "grid") :: g.members)

def Snapshot.toJson (s : Snapshot) : Json :=
  .obj [("base_url", .str s.baseUrl), ("config", s.config.toJson), ("catalog", idsToJson s.catalog),
    ("selection", idsToJson s.selection), ("layout_version", .nat s.layoutVersion),
    ("view", s.view.toJson)]

def PanelsSnapshot.toJson (s : PanelsSnapshot) : Json :=
  .obj [("layout_version", .nat s.layoutVersion), ("interval_ms", .nat s.intervalMs),
    ("running", .bool s.running), ("panels", .arr (s.panels.map Panel.toJson))]

end VideoWall
