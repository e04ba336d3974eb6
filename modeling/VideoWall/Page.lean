import VideoWall.Page.Markup
import VideoWall.Page.Script
import VideoWall.Snapshot

/-!
# The page

The whole page of a snapshot: the controls at the side and the current view.  Elements that the
script looks for have ids; those of a tile carry its slot.
-/

namespace VideoWall.Page

/-! ## Controls -/

/-- A setting with a range. -/
structure Slider where
  title : String
  name : String
  setting : String
  lowest : String
  highest : String
  step : String
  value : String

def Slider.pieces (r : Slider) : List Piece :=
  [.markup ("        <label>" ++ r.title ++ ": <span "), .ident (r.name ++ "-value"), .markup ">",
    .text r.value, .markup "</span>\n            <input type=\"range\" ", .ident r.name,
    .markup (" min=\"" ++ r.lowest ++ "\" max=\"" ++ r.highest ++ "\" step=\"" ++ r.step ++
      "\" value=\""),
    .text r.value,
    .markup ("\"\n                oninput=\"document.getElementById('" ++ r.name ++
      "-value').textContent = this.value\"\n"),
    .markup ("                onchange=\"updateConfig(\x7b " ++ r.setting ++
      ": Number(this.value) \x7d)\">\n        </label>\n")]

def intervalSlider (c : RefreshConfig) : Slider where
  title := "Refresh interval (ms)"
  name := "interval"
  setting := "interval_ms"
  lowest := "200"
  highest := "2000"
  step := "100"
  value := toString c.intervalMs

def timeoutSlider (c : RefreshConfig) : Slider where
  title := "HTTP timeout (s)"
  name := "timeout"
  setting := "timeout_s"
  lowest := "0.2"
  highest := "3"
  step := "0.1"
  value := c.timeoutS.oneDecimal

def columnsSlider (c : RefreshConfig) : Slider where
  title := "Grid columns"
  name := "columns"
  setting := "columns"
  lowest := "1"
  highest := "4"
  step := "1"
  value := toString c.columns

/-- A setting that is on or off. -/
def checkbox (title setting : String) (on : Bool) : List Piece :=
  [.markup "        <label class=\"inline\"><input type=\"checkbox\" ",
    .text (if on then "checked" else ""),
    .markup (" onchange=\"updateConfig(\x7b " ++ setting ++ ": this.checked \x7d)\"> " ++ title ++
      "</label>\n")]

/-- A stream of the catalog in the selection box. -/
def option (selection : List StreamId) (id : StreamId) : List Piece :=
  [.markup "<option value=\"", .text id.raw, .markup "\"",
    .text (if selection.contains id then " selected" else ""), .markup ">", .text id.raw,
    .markup "</option>"]

def sidebar (s : Snapshot) : List Piece :=
  [.markup "<div class=\"sidebar\">\n        <h2>Backend</h2>\n        <label>Base URL\n",
    .markup "            <input type=\"text\" ", .ident "base-url", .markup " value=\"",
    .text s.baseUrl, .markup "\">\n        </label>\n",
    .markup "        <button class=\"btn\" onclick=\"connectBackend()\">Connect</button>\n"] ++
  (intervalSlider s.config).pieces ++ (timeoutSlider s.config).pieces ++
  (columnsSlider s.config).pieces ++
  checkbox "Show metadata" "show_meta" s.config.showMeta ++
  checkbox "Show stream links" "show_links" s.config.showLinks ++
  checkbox "Run" "running" s.config.running ++
  [.markup "        <h2>Streams</h2>\n        <label>Select streams\n",
    .markup "            <select multiple ", .ident "selection", .markup ">"] ++
  s.catalog.flatMap (option s.selection) ++
  [.markup "</select>\n        </label>\n",
    .markup "        <button class=\"btn\" onclick=\"applySelection()\">Apply selection</button>\n",
    .markup "        <button class=\"btn btn-secondary\" onclick=\"rescan()\">",
    .markup "Rescan streams</button>\n    </div>"]

/-! ## The grid -/

def links (e : Endpoints) : List Piece :=
  [.markup "<code>", .text e.videoUrl, .markup "</code><code>", .text e.metaUrl, .markup "</code>"]

def panel (slot : Nat) (p : Panel) : List Piece :=
  [.markup "<pre class=\"meta-body\" ", .ident ("meta-body-" ++ toString slot), .markup ">",
    .text p.body, .markup "</pre>\n            <div class=\"caption",
    .text (if p.status.isStale then " stale" else ""), .markup "\" ",
    .ident ("meta-caption-" ++ toString slot), .markup ">", .text p.caption, .markup "</div>"]

def tile (showLinks : Bool) (t : Tile) : List Piece :=
  [.markup "<div class=\"tile\" ", .ident ("tile-" ++ toString t.slot),
    .markup ">\n            <h3>", .text t.stream.raw, .markup "</h3>\n            "] ++
  (if showLinks then links t.endpoints else []) ++
  [.markup "\n            <img class=\"video\" src=\"", .text t.endpoints.videoUrl,
    .markup "\" alt=\"", .text t.stream.raw, .markup "\">\n            "] ++
  (match t.panel with
    | some p => panel t.slot p
    | none => []) ++
  [.markup "\n        </div>"]

def row (g : Grid) (tiles : List Tile) : List Piece :=
  [.markup "<div class=\"grid-row\" style=\"grid-template-columns: repeat(", .nat g.columns,
    .markup ", 1fr);\">"] ++ tiles.flatMap (tile g.showLinks) ++ [.markup "</div>"]

def grid (g : Grid) : List Piece := g.rows.flatMap (row g)

/-! ## The whole page -/

def view : View → List Piece
  | .loading => [.markup "<div class=\"alert info\">Discovering streams…</div>"]
  | .discoveryFailed message =>
    [.markup "<div class=\"alert error\">", .text message, .markup "</div>"]
  | .emptyCatalog => [.markup "<div class=\"alert warning\">No streams available.</div>"]
  | .emptySelection => [.markup "<div class=\"alert info\">Select at least one stream.</div>"]
  | .grid g => grid g

def page (s : Snapshot) : List Piece :=
  [.markup "<!DOCTYPE html>\n<html lang=\"en\">\n<head>\n    <meta charset=\"UTF-8\">\n",
    .markup "    <meta name=\"viewport\" content=\"width=device-width, initial-scale=1.0\">\n",
    .markup "    <title>SecureSurveillance</title>\n",
    .markup "    <link rel=\"stylesheet\" href=\"/static/style.css\">\n</head>\n<body>\n    "] ++
  sidebar s ++
  [.markup "\n    <div class=\"main\">\n        <h1>SecureSurveillance</h1>\n",
    .markup "        <div class=\"run-state\" ", .ident "run-state", .markup ">",
    .text (if s.config.running then "Running" else "Paused"), .markup "</div>\n        <div ",
    .ident "error-slot", .markup "></div>\n        "] ++
  view s.view ++ [.markup "\n    </div>\n    "] ++
  script s.layoutVersion s.config.intervalMs ++ [.markup "\n</body>\n</html>\n"]

end VideoWall.Page
