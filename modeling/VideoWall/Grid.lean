import VideoWall.Config
import VideoWall.Endpoints
import VideoWall.Panel

/-!
# The grid of tiles

The selected streams fill the rows of the grid from left to right and from top to bottom.
-/

namespace VideoWall

/-- `items` cut into rows of `columns`, of which the last may be short; the fuel bounds the number
of rows. -/
def rowsOf {α : Type} (columns : Nat) : Nat → List α → List (List α)
  | 0, _ => []
  | _ + 1, [] => []
  | fuel + 1, items => items.take columns :: rowsOf columns fuel (items.drop columns)

/-- `items` cut into rows; no columns count as one. -/
def partitionRows {α : Type} (items : List α) (columns : Nat) : List (List α) :=
  rowsOf (max columns 1) items.length items

/-- One cell of the grid. -/
structure Tile where
  slot : Nat
  row : Nat
  column : Nat
  stream : StreamId
  endpoints : Endpoints
  panel : Option Panel
  deriving Repr, Inhabited

structure Grid where
  layoutVersion : Nat
  columns : Nat
  showMeta : Bool
  showLinks : Bool
  rows : List (List Tile)
  deriving Repr, Inhabited

namespace Grid

/-- What a grid shows besides the streams. -/
structure Context where
  baseUrl : String
  config : RefreshConfig
  stores : Stores
  layoutVersion : Nat
  now : Instant

def tile (ctx : Context) (columns row column : Nat) (id : StreamId) : Tile where
  slot := row * columns + column
  row
  column
  stream := id
  endpoints := compose ctx.baseUrl id
  panel := if ctx.config.showMeta then some (Panel.build ctx.stores ctx.now id) else none

/-- The tiles of the streams, row by row. -/
def build (ctx : Context) (selection : List StreamId) : Grid :=
  let columns := max ctx.config.columns 1
  { layoutVersion := ctx.layoutVersion
    columns
    showMeta := ctx.config.showMeta
    showLinks := ctx.config.showLinks
    rows := (partitionRows selection columns).mapIdx fun row ids =>
      ids.mapIdx fun column id => tile ctx columns row column id }

/-- The tiles from left to right and from top to bottom. -/
def tiles (g : Grid) : List Tile := g.rows.flatten

end Grid

def Endpoints.toJson (e : Endpoints) : Json :=
  .obj [("video_url", .str e.videoUrl), ("meta_url", .str e.metaUrl)]

def Tile.toJson (t : Tile) : Json :=
  .obj [("slot", .nat t.slot), ("row", .nat t.row), ("column", .nat t.column),
    ("stream_id", .str t.stream.raw), ("endpoints", t.endpoints.toJson),
    ("metadata", .ofOption Panel.toJson t.panel)]

def Grid.members (g : Grid) : List (String × Json) :=
  [("layout_version", .nat g.layoutVersion), ("columns", .nat g.columns),
    ("show_meta", .bool g.showMeta), ("show_links", .bool g.showLinks),
    ("rows", .arr (g.rows.map fun row => .arr (row.map Tile.toJson)))]

end VideoWall
