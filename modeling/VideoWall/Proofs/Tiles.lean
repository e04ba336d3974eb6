import VideoWall.Snapshot

/-!
# The tiles of a page

Read from left to right and from top to bottom, the tiles are those of the selected streams in their
order, and their slots count them.

    (Grid.build ctx ids).tiles = ids.mapIdx fun i id => …                           (tiles_build)
-/

namespace VideoWall

/-- What is made of the entries of rows by row and column is made of the items by their place. -/
theorem flatten_mapIdx_rowsOf {α β : Type} {columns : Nat} (hc : 0 < columns)
    (f : Nat → Nat → α → β) (row fuel : Nat) (items : List α) (h : items.length ≤ fuel) :
    ((rowsOf columns fuel items).mapIdx fun r as => as.mapIdx (f (row + r))).flatten =
      items.mapIdx fun i => f (row + i / columns) (i % columns) := by
  induction fuel generalizing row items with
  | zero =>
    have hnil : items = [] := List.length_eq_zero_iff.1 (Nat.le_zero.1 h)
    simp [rowsOf, hnil]
  | succ fuel ih =>
    cases items with
    | nil => simp [rowsOf]
    | cons a as =>
      have hrest : ((a :: as).drop columns).length ≤ fuel := by
        simp only [List.length_drop, List.length_cons] at h ⊢
        omega
      have hfirst : ((a :: as).take columns).mapIdx (f row) =
          ((a :: as).take columns).mapIdx fun i => f (row + i / columns) (i % columns) := by
        refine List.mapIdx_eq_mapIdx_iff.2 fun i hi => ?_
        have hlt : i < columns := by
          rw [List.length_take] at hi
          omega
        rw [Nat.div_eq_of_lt hlt, Nat.mod_eq_of_lt hlt, Nat.add_zero]
      have hothers : (((a :: as).drop columns).mapIdx
            fun i => f (row + 1 + i / columns) (i % columns)) =
          ((a :: as).drop columns).mapIdx fun i =>
            f (row + (i + ((a :: as).take columns).length) / columns)
              ((i + ((a :: as).take columns).length) % columns) := by
        refine List.mapIdx_eq_mapIdx_iff.2 fun i hi => ?_
        -- a row after the first one means that the first one is full
        have hfull : ((a :: as).take columns).length = columns := by
          rw [List.length_drop] at hi
          rw [List.length_take]
          omega
        rw [hfull, Nat.add_div_right i hc, Nat.add_mod_right, Nat.add_right_comm, Nat.add_assoc]
      have hshift : (fun r (bs : List α) => bs.mapIdx (f (row + (r + 1)))) =
          fun r bs => bs.mapIdx (f (row + 1 + r)) := by
        funext r bs
        rw [Nat.add_assoc row 1 r, Nat.add_comm 1 r]
      calc ((rowsOf columns (fuel + 1) (a :: as)).mapIdx fun r as => as.mapIdx (f (row + r))).flatten
          = ((a :: as).take columns).mapIdx (f row) ++
              ((rowsOf columns fuel ((a :: as).drop columns)).mapIdx
                fun r as => as.mapIdx (f (row + 1 + r))).flatten := by
            rw [rowsOf, List.mapIdx_cons, List.flatten_cons, Nat.add_zero, hshift]
            simp
        _ = (((a :: as).take columns) ++ (a :: as).drop columns).mapIdx
              fun i => f (row + i / columns) (i % columns) := by
            rw [ih (row + 1) _ hrest, List.mapIdx_append, hfirst, hothers]
        _ = (a :: as).mapIdx fun i => f (row + i / columns) (i % columns) := by
            rw [List.take_append_drop]

namespace Grid

variable (ctx : Context) (ids : List StreamId)

theorem tiles_build :
    (build ctx ids).tiles = ids.mapIdx fun i =>
      tile ctx (max ctx.config.columns 1) (i / max ctx.config.columns 1)
        (i % max ctx.config.columns 1) := by
  have hpos : 0 < max (max ctx.config.columns 1) 1 := by omega
  have hmax : max (max ctx.config.columns 1) 1 = max ctx.config.columns 1 := by omega
  have h := flatten_mapIdx_rowsOf hpos (tile ctx (max ctx.config.columns 1)) 0 ids.length ids
    (Nat.le_refl _)
  simp only [hmax, Nat.zero_add] at h
  simp only [build, tiles, partitionRows, hmax]
  exact h

/-- What is read off a tile without regard to its place is read off the stream. -/
theorem map_tiles_build {β : Type} (f : Tile → β) (g : StreamId → β)
    (h : ∀ columns row column id, f (tile ctx columns row column id) = g id) :
    (build ctx ids).tiles.map f = ids.map g := by
  rw [tiles_build, List.mapIdx_eq_zipIdx_map, List.map_map]
  calc ids.zipIdx.map _
      = ids.zipIdx.map (g ∘ Prod.fst) := List.map_congr_left fun p _ => h _ _ _ p.1
    _ = ids.map g := by rw [← List.map_map, List.zipIdx_map_fst]

/-- The slots count the tiles. -/
theorem map_slot_tiles_build : (build ctx ids).tiles.map (·.slot) = List.range ids.length := by
  rw [tiles_build, List.mapIdx_eq_zipIdx_map, List.map_map]
  rw [List.range_eq_range', ← List.zipIdx_map_snd 0 ids]
  refine List.map_congr_left fun p _ => ?_
  exact Nat.div_add_mod' p.2 _

/-- The slot of a tile is the place of its stream. -/
theorem getElem?_slot_of_mem {t : Tile} (h : t ∈ (build ctx ids).tiles) :
    ids[t.slot]? = some t.stream := by
  rw [tiles_build, List.mem_mapIdx] at h
  obtain ⟨i, hi, rfl⟩ := h
  have hslot : i / max ctx.config.columns 1 * max ctx.config.columns 1 +
      i % max ctx.config.columns 1 = i := Nat.div_add_mod' _ _
  simp only [tile, hslot]
  exact List.getElem?_eq_getElem hi

end Grid

/-- The tiles of a page, of which only a grid has any. -/
def View.tiles : View → List Tile
  | grid g => g.tiles
  | _ => []

/-- The slots of a page count its tiles. -/
theorem Dashboard.map_slot_view (d : Dashboard) (stores : Stores) (now : Instant) :
    (d.view stores now).tiles.map (·.slot) = List.range (d.view stores now).tiles.length := by
  have hgrid : (Grid.build (d.context stores now) d.selection).tiles.map (·.slot) =
      List.range (Grid.build (d.context stores now) d.selection).tiles.length := by
    rw [Grid.map_slot_tiles_build, Grid.tiles_build, List.length_mapIdx]
  unfold view
  split
  · rfl
  · rfl
  · split
    · rfl
    · split
      · rfl
      · exact hgrid

end VideoWall
