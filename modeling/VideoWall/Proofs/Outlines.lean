import VideoWall.Page
import VideoWall.Proofs.Tiles

/-!
# The outline of a page

What is left of a page without its texts is its outline.  Tags and attributes begin and end with
characters that no escaped text has, so that all of them are in the outline; and the outline depends
on the shape of a snapshot alone: on how many streams there are in the catalog, which view there is
and which tiles of a grid have links and panels.

    all that delimits tags and attributes is in the outline       (delimiters_render)
    snapshots of one shape have pages of one outline                   (outline_page)
-/

namespace VideoWall

/-! ## Shapes -/

/-- Which elements there are in a view: those of a grid depend on whether there are links and, row
by row, on which tiles have panels. -/
inductive View.Shape where
  | loading
  | discoveryFailed
  | emptyCatalog
  | emptySelection
  | grid (showLinks : Bool) (panels : List (List Bool))
  deriving DecidableEq, Repr

def View.shape : View → View.Shape
  | loading => .loading
  | discoveryFailed _ => .discoveryFailed
  | emptyCatalog => .emptyCatalog
  | emptySelection => .emptySelection
  | grid g => .grid g.showLinks (g.rows.map fun tiles => tiles.map (·.panel.isSome))

namespace Page

/-! ## Delimiters -/

/-- Whether a character opens or closes a tag or the value of an attribute. -/
def isDelimiter (c : Char) : Bool := c == '<' || c == '>' || c == '"' || c == '\''

/-- What opens and closes tags and attributes in a text, in order. -/
def delimiters (s : String) : List Char := s.toList.filter isDelimiter

/-- A piece without the text that comes from elsewhere. -/
def Piece.outline : Piece → Piece
  | markup s => markup s
  | text _ => text ""
  | ident _ => ident ""

def outline (ps : List Piece) : List Piece := ps.map Piece.outline

theorem filter_escapeChar (c : Char) : (escapeChar c).filter isDelimiter = [] := by
  unfold escapeChar
  split
  · rfl
  split
  · rfl
  split
  · rfl
  split
  · rfl
  split
  · rfl
  next hlt hgt hquot hapos => simp [isDelimiter, hlt, hgt, hquot, hapos]

/-- Escaped text opens and closes nothing. -/
theorem filter_escape (cs : List Char) : (cs.flatMap escapeChar).filter isDelimiter = [] := by
  rw [List.filter_flatMap, List.flatMap_eq_nil_iff]
  exact fun c _ => filter_escapeChar c

theorem filter_chars (p : Piece) :
    p.chars.filter isDelimiter = p.outline.chars.filter isDelimiter := by
  cases p with
  | markup s => rfl
  | text s =>
    simp only [Piece.chars, Piece.outline, filter_escape]
  | ident name =>
    simp only [Piece.chars, Piece.outline, List.filter_append, filter_escape]

theorem delimiters_render (ps : List Piece) :
    delimiters (render ps) = (outline ps).flatMap fun p => p.chars.filter isDelimiter := by
  rw [delimiters, render, String.toList_ofList, List.filter_flatMap, outline, List.flatMap_map]
  exact congrArg ps.flatMap (funext filter_chars)

/-! ## The outlines of the parts -/

theorem outline_append (ps qs : List Piece) : outline (ps ++ qs) = outline ps ++ outline qs :=
  List.map_append

theorem outline_flatMap {α : Type} (f : α → List Piece) (as : List α) :
    outline (as.flatMap f) = as.flatMap fun a => outline (f a) := List.map_flatMap

theorem outline_options {ids others : List StreamId} (h : ids.length = others.length)
    (selection chosen : List StreamId) :
    outline (ids.flatMap (option selection)) = outline (others.flatMap (option chosen)) := by
  have hconst (streams selected : List StreamId) :
      outline (streams.flatMap (option selected)) =
        (List.replicate streams.length (outline (option [] default))).flatten := by
    rw [outline_flatMap, List.flatMap_def, ← List.map_const']
    rfl
  rw [hconst, hconst, h]

/-- The controls have one outline, whatever the settings are. -/
theorem outline_sidebar {s t : Snapshot} (h : s.catalog.length = t.catalog.length) :
    outline (sidebar s) = outline (sidebar t) := by
  have hoptions := outline_options h s.selection t.selection
  simp only [sidebar, outline_append, hoptions]
  rfl

/-- A tile of which only its links and its panel matter. -/
def tileOutline (showLinks hasPanel : Bool) : List Piece :=
  outline (tile showLinks
    { (default : Tile) with panel := if hasPanel then some default else none })

theorem outline_tile (showLinks : Bool) (t : Tile) :
    outline (tile showLinks t) = tileOutline showLinks t.panel.isSome := by
  unfold tileOutline tile
  cases showLinks <;> cases t.panel <;> rfl

def rowOutline (showLinks : Bool) (panels : List Bool) : List Piece :=
  outline [.markup "<div class=\"grid-row\" style=\"grid-template-columns: repeat(", .text "",
    .markup ", 1fr);\">"] ++ panels.flatMap (tileOutline showLinks) ++ [.markup "</div>"]

theorem outline_row (g : Grid) (tiles : List Tile) :
    outline (row g tiles) = rowOutline g.showLinks (tiles.map (·.panel.isSome)) := by
  have htiles : outline (tiles.flatMap (tile g.showLinks)) =
      (tiles.map (·.panel.isSome)).flatMap (tileOutline g.showLinks) := by
    rw [outline_flatMap, List.flatMap_map]
    exact congrArg tiles.flatMap (funext (outline_tile g.showLinks))
  rw [row, outline_append, outline_append, htiles]
  rfl

def viewOutline : View.Shape → List Piece
  | .loading => outline (view .loading)
  | .discoveryFailed => outline (view (.discoveryFailed ""))
  | .emptyCatalog => outline (view .emptyCatalog)
  | .emptySelection => outline (view .emptySelection)
  | .grid showLinks panels => panels.flatMap (rowOutline showLinks)

theorem outline_view (v : View) : outline (view v) = viewOutline v.shape := by
  cases v with
  | grid g =>
    rw [view, grid, outline_flatMap, View.shape, viewOutline, List.flatMap_map]
    exact congrArg g.rows.flatMap (funext (outline_row g))
  | _ => rfl

/-- The outline of a page is that of its shape. -/
theorem outline_page {s t : Snapshot} (hcatalog : s.catalog.length = t.catalog.length)
    (hview : s.view.shape = t.view.shape) : outline (page s) = outline (page t) := by
  simp only [page, outline_append, outline_sidebar hcatalog, outline_view, hview]
  rfl

/-- Pages of snapshots of one shape have the same tags and attributes: whatever the texts and
numbers are, they open and close none. -/
theorem same_delimiters_of_same_shape (s t : Snapshot)
    (hcatalog : s.catalog.length = t.catalog.length) (hview : s.view.shape = t.view.shape) :
    delimiters (render (page s)) = delimiters (render (page t)) := by
  rw [delimiters_render, delimiters_render, outline_page hcatalog hview]

/-- A base address and a stream that look like markup, and plain ones. -/
theorem same_delimiters_of_hostile_names :
    let shown (base : String) (id : StreamId) : Snapshot :=
      { baseUrl := base, config := {}, catalog := [id], selection := [id], layoutVersion := 0
        view := .grid (.build ⟨base, {}, {}, 0, ⟨0⟩⟩ [id]) }
    let plain := shown "http://a" (.parse "cam1")
    let hostile := shown "\"><script>" (.parse "<img src='x'>")
    plain.catalog.length = hostile.catalog.length ∧ plain.view.shape = hostile.view.shape ∧
      plain.baseUrl ≠ hostile.baseUrl ∧ hostile.view.tiles.map (·.stream.raw) = ["<img src='x'>"] ∧
      delimiters (render (page plain)) = delimiters (render (page hostile)) := by
  intro shown plain hostile
  have hcatalog : plain.catalog.length = hostile.catalog.length := rfl
  have hview : plain.view.shape = hostile.view.shape := by decide +kernel
  have hbase : plain.baseUrl ≠ hostile.baseUrl := by decide +kernel
  have htiles : hostile.view.tiles.map (·.stream.raw) = ["<img src='x'>"] := by decide +kernel
  exact ⟨hcatalog, hview, hbase, htiles, same_delimiters_of_same_shape plain hostile hcatalog hview⟩

end Page

end VideoWall
