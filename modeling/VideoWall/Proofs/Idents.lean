import VideoWall.Page
import VideoWall.Proofs.Tiles

/-!
# The ids on a page

The script looks for the parts of a panel by ids that carry the slot of its tile.  Ids are fixed
pieces of a page, so that no text on it adds one.

    the ids on a page are those of the controls and then, tile by tile, those of the tiles
                                                                                   (idents_page)
    there is one body for each tile with a panel, in the order of the tiles        (bodies_page)
-/

namespace VideoWall.Page

theorem idents_append (ps qs : List Piece) : idents (ps ++ qs) = idents ps ++ idents qs :=
  List.filterMap_append

theorem idents_flatMap {α : Type} (f : α → List Piece) (as : List α) :
    idents (as.flatMap f) = as.flatMap fun a => idents (f a) := by
  induction as with
  | nil => rfl
  | cons a as ih => rw [List.flatMap_cons, idents_append, ih, List.flatMap_cons]

theorem idents_map_markup (lines : List String) (f : String → String) :
    idents (lines.map fun line => .markup (f line)) = [] := by
  simp [idents]

/-! ## The ids of the parts -/

def bodyIdent (slot : Nat) : String := "meta-body-" ++ toString slot

def tileIdents (t : Tile) : List String :=
  ("tile-" ++ toString t.slot) ::
    match t.panel with
    | some _ => [bodyIdent t.slot, "meta-caption-" ++ toString t.slot]
    | none => []

def sidebarIdents : List String :=
  ["base-url", "interval-value", "interval", "timeout-value", "timeout", "columns-value", "columns",
    "selection"]

theorem idents_sidebar (s : Snapshot) : idents (sidebar s) = sidebarIdents := by
  have hoptions : idents (s.catalog.flatMap (option s.selection)) = [] := by
    rw [idents_flatMap]
    exact List.flatMap_eq_nil_iff.2 fun _ _ => rfl
  simp only [sidebar, idents_append, hoptions]
  rfl

theorem idents_tile (showLinks : Bool) (t : Tile) : idents (tile showLinks t) = tileIdents t := by
  unfold tile tileIdents
  cases showLinks <;> cases t.panel <;> rfl

theorem idents_row (g : Grid) (tiles : List Tile) :
    idents (row g tiles) = tiles.flatMap tileIdents := by
  simp only [row, idents_append, idents_flatMap, idents_tile]
  exact List.append_nil _

theorem idents_view (v : View) : idents (view v) = v.tiles.flatMap tileIdents := by
  cases v with
  | grid g =>
    simp only [view, grid, idents_flatMap, idents_row, View.tiles, Grid.tiles]
    rw [← List.flatMap_id, List.flatMap_assoc]
    rfl
  | _ => rfl

theorem idents_script (layoutVersion intervalMs : Nat) :
    idents (script layoutVersion intervalMs) = [] := by
  simp only [script, idents_append, idents_map_markup]
  rfl

theorem idents_page (s : Snapshot) :
    idents (page s) =
      sidebarIdents ++ (["run-state", "error-slot"] ++ s.view.tiles.flatMap tileIdents) := by
  simp only [page, idents_append, idents_sidebar, idents_view, idents_script]
  simp [idents]

/-! ## Panels -/

/-- Whether an id is that of the body of a panel. -/
def isBody (name : String) : Bool := "meta-body-".toList.isPrefixOf name.toList

/-- The ids of the bodies of the panels, in order. -/
def bodies (ps : List Piece) : List String := (idents ps).filter isBody

theorem isBody_bodyIdent (slot : Nat) : isBody (bodyIdent slot) = true := by
  rw [isBody, bodyIdent, String.toList_append, List.isPrefixOf_iff_prefix]
  exact List.prefix_append _ _

theorem filter_isBody_tileIdents (t : Tile) :
    (tileIdents t).filter isBody = if t.panel.isSome then [bodyIdent t.slot] else [] := by
  have htile (number : String) : isBody ("tile-" ++ number) = false := by
    rw [isBody, String.toList_append]
    rfl
  have hcaption (number : String) : isBody ("meta-caption-" ++ number) = false := by
    rw [isBody, String.toList_append]
    rfl
  unfold tileIdents
  cases t.panel with
  | none => simp [htile]
  | some p => simp [htile, hcaption, isBody_bodyIdent]

theorem bodies_page (s : Snapshot) :
    bodies (page s) = (s.view.tiles.filter (·.panel.isSome)).map fun t => bodyIdent t.slot := by
  have hcontrols : (sidebarIdents ++ ["run-state", "error-slot"]).filter isBody = [] := by
    decide +kernel
  rw [bodies, idents_page, ← List.append_assoc, List.filter_append, hcontrols, List.nil_append]
  induction s.view.tiles with
  | nil => rfl
  | cons t ts ih =>
    rw [List.flatMap_cons, List.filter_append, ih, filter_isBody_tileIdents]
    cases h : t.panel.isSome <;> simp [h]

end VideoWall.Page
