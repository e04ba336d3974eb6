import Mathlib.Data.List.Nodup
import Mathlib.Data.List.ProdSigma
import VideoWall.Proofs.Elements

/-!
# Rows and slots

The rows of a grid are cut off a list one after another, and a script counts the panels of the page
as a plain list.  That the two come to the same rests on every row but the last one being full: the
slot of a tile, told by its row and its column, is its place in the list.

    as many rows as it takes, all of them full but the last              (length_rowsOf)
    the tile of a slot is that of the stream at this place            (getElem?_tiles_build)
    each slot has its elements on the page, and each of them once           (slots_of_grid)
-/

namespace VideoWall

/-! ## Rows -/

section Rows

variable {α : Type} {columns fuel : Nat} {items : List α}

theorem rowsOf_cons (columns fuel : Nat) (a : α) (as : List α) :
    rowsOf columns (fuel + 1) (a :: as) =
      (a :: as).take columns :: rowsOf columns fuel ((a :: as).drop columns) := rfl

theorem length_rowsOf (hc : 0 < columns) (h : items.length ≤ fuel) :
    (rowsOf columns fuel items).length = (items.length + columns - 1) / columns := by
  induction fuel generalizing items with
  | zero =>
    rw [Nat.le_zero.1 h, Nat.zero_add]
    exact (Nat.div_eq_of_lt (Nat.sub_lt hc Nat.one_pos)).symm
  | succ fuel ih =>
    cases items with
    | nil =>
      rw [List.length_nil, Nat.zero_add]
      exact (Nat.div_eq_of_lt (Nat.sub_lt hc Nat.one_pos)).symm
    | cons a as =>
      have hrest : ((a :: as).drop columns).length ≤ fuel := by
        simp only [List.length_drop, List.length_cons] at h ⊢
        omega
      rw [rowsOf_cons, List.length_cons, ih hrest, List.length_drop, List.length_cons]
      -- the first row takes `columns` items, or all there are
      by_cases hle : as.length + 1 ≤ columns
      · have hlast : as.length + 1 + columns - 1 = as.length + columns := by omega
        rw [Nat.sub_eq_zero_of_le hle, Nat.zero_add, Nat.div_eq_of_lt (Nat.sub_lt hc Nat.one_pos),
          hlast, Nat.add_div_right _ hc, Nat.div_eq_of_lt (by omega)]
      · have hmore : as.length + 1 + columns - 1 =
            as.length + 1 - columns + columns - 1 + columns := by omega
        rw [hmore, Nat.add_div_right _ hc]

theorem length_of_mem_rowsOf (hc : 0 < columns) {row : List α}
    (h : row ∈ rowsOf columns fuel items) : 1 ≤ row.length ∧ row.length ≤ columns := by
  induction fuel generalizing items with
  | zero => cases h
  | succ fuel ih =>
    cases items with
    | nil => cases h
    | cons a as =>
      rw [rowsOf_cons, List.mem_cons] at h
      rcases h with rfl | h
      · rw [List.length_take, List.length_cons]
        omega
      · exact ih h

theorem length_of_mem_dropLast_rowsOf {row : List α}
    (h : row ∈ (rowsOf columns fuel items).dropLast) : row.length = columns := by
  induction fuel generalizing items with
  | zero => cases h
  | succ fuel ih =>
    cases items with
    | nil => cases h
    | cons a as =>
      by_cases hnone : rowsOf columns fuel ((a :: as).drop columns) = []
      · rw [rowsOf_cons, hnone] at h
        cases h
      · rw [rowsOf_cons, List.dropLast_cons_of_ne_nil hnone, List.mem_cons] at h
        rcases h with rfl | h
        · -- there are items left, so that the first row is full
          have hleft : (a :: as).drop columns ≠ [] := by
            intro hnil
            rw [hnil] at hnone
            cases fuel <;> exact hnone rfl
          have hlt : columns < (a :: as).length := by
            rw [ne_eq, List.drop_eq_nil_iff] at hleft
            omega
          rw [List.length_take]
          omega
        · exact ih h

end Rows

namespace Grid

variable (ctx : Context) (ids : List StreamId)

theorem map_length_rows_build :
    (build ctx ids).rows.map List.length =
      (partitionRows ids (max ctx.config.columns 1)).map List.length := by
  refine List.ext_getElem? fun i => ?_
  simp only [build, List.getElem?_map, List.getElem?_mapIdx, Option.map_map]
  congr 1
  funext row
  exact List.length_mapIdx

theorem getElem?_tiles_build (i : Nat) :
    (build ctx ids).tiles[i]? = ids[i]?.map fun id =>
      { slot := i, row := i / max ctx.config.columns 1, column := i % max ctx.config.columns 1
        stream := id, endpoints := compose ctx.baseUrl id
        panel :=
          if ctx.config.showMeta then some (Panel.build ctx.stores ctx.now id) else none } := by
  have hslot : i / max ctx.config.columns 1 * max ctx.config.columns 1 +
      i % max ctx.config.columns 1 = i := Nat.div_add_mod' _ _
  rw [tiles_build, List.getElem?_mapIdx]
  congr 1
  funext id
  simp only [tile, hslot]

theorem length_rows_build :
    (build ctx ids).rows.length =
      (ids.length + max ctx.config.columns 1 - 1) / max ctx.config.columns 1 := by
  have hmax : max (max ctx.config.columns 1) 1 = max ctx.config.columns 1 := by omega
  have hlength := congrArg List.length (map_length_rows_build ctx ids)
  rw [List.length_map, List.length_map, partitionRows, hmax] at hlength
  rw [hlength]
  exact length_rowsOf (by omega) (Nat.le_refl _)

theorem length_of_mem_dropLast_rows {row : List Tile} (h : row ∈ (build ctx ids).rows.dropLast) :
    row.length = max ctx.config.columns 1 := by
  have hmem : row.length ∈ ((build ctx ids).rows.map List.length).dropLast := by
    rw [← List.map_dropLast]
    exact List.mem_map_of_mem h
  rw [map_length_rows_build, ← List.map_dropLast] at hmem
  obtain ⟨part, hpart, hlength⟩ := List.mem_map.1 hmem
  rw [← hlength, length_of_mem_dropLast_rowsOf hpart]
  omega

theorem length_of_mem_rows {row : List Tile} (h : row ∈ (build ctx ids).rows) :
    1 ≤ row.length ∧ row.length ≤ max ctx.config.columns 1 := by
  have hmem : row.length ∈ (build ctx ids).rows.map List.length := List.mem_map_of_mem h
  rw [map_length_rows_build] at hmem
  obtain ⟨part, hpart, hlength⟩ := List.mem_map.1 hmem
  have hbounds := length_of_mem_rowsOf (by omega) hpart
  omega

end Grid

/-! ## Elements -/

namespace Page

/-- What the ids of the elements of a slot begin with. -/
def slotKinds (showMeta : Bool) : List String :=
  "tile-" :: if showMeta then ["meta-body-", "meta-caption-"] else []

/-- The ids of the elements of a slot. -/
def slotIdents (showMeta : Bool) (slot : Nat) : List String :=
  (slotKinds showMeta).map fun kind => kind ++ toString slot

theorem mem_slotIdents {showMeta : Bool} {slot : Nat} {name : String} :
    name ∈ slotIdents showMeta slot ↔ name = "tile-" ++ toString slot ∨
      showMeta = true ∧ (name = "meta-body-" ++ toString slot ∨
        name = "meta-caption-" ++ toString slot) := by
  cases showMeta <;> simp [slotIdents, slotKinds]

theorem eq_of_toString_eq {a b : Nat} (h : toString a = toString b) : a = b := by
  have hdigits : Nat.toDigits 10 a = Nat.toDigits 10 b := by
    have hlist := congrArg String.toList h
    rwa [Nat.toString_eq_repr, Nat.toString_eq_repr, Nat.toList_repr, Nat.toList_repr] at hlist
  have hvalue := congrArg (fun ds => Nat.ofDigitChars 10 ds 0) hdigits
  simpa only [Nat.ofDigitChars_toDigits (b := 10) (by omega) (by omega)] using hvalue

/-- An id tells its kind and its slot. -/
theorem slotKind_append_inj {j k : String} (hj : j ∈ slotKinds true) (hk : k ∈ slotKinds true)
    {a b : Nat} (h : j ++ toString a = k ++ toString b) : j = k ∧ a = b := by
  have hkind : j = k := by
    have hlist := congrArg String.toList h
    simp only [slotKinds, if_true, List.mem_cons, List.not_mem_nil, or_false] at hj hk
    rcases hj with rfl | rfl | rfl <;> rcases hk with rfl | rfl | rfl <;>
      simp [String.toList_append] at hlist ⊢
  subst hkind
  exact ⟨rfl, eq_of_toString_eq ((String.append_right_inj j).1 h)⟩

theorem nodup_slotIdents (showMeta : Bool) (n : Nat) :
    ((List.range n).flatMap (slotIdents showMeta)).Nodup := by
  have hkinds : (slotKinds showMeta).Nodup := by
    cases showMeta <;> decide
  have hsub : ∀ kind ∈ slotKinds showMeta, kind ∈ slotKinds true := by
    cases showMeta <;> decide
  have hproduct : (List.range n).flatMap (slotIdents showMeta) =
      (List.range n ×ˢ slotKinds showMeta).map fun p => p.2 ++ toString p.1 := by
    simp only [SProd.sprod, List.product, List.map_flatMap, List.map_map]
    rfl
  rw [hproduct]
  refine List.Nodup.map_on (fun p hp q hq h => ?_) (List.nodup_range.product hkinds)
  obtain ⟨hkind, hslot⟩ := slotKind_append_inj (hsub _ (List.mem_product.1 hp).2)
    (hsub _ (List.mem_product.1 hq).2) h
  exact Prod.ext hslot hkind

theorem tileIdents_of_mem {ctx : Grid.Context} {ids : List StreamId} {t : Tile}
    (h : t ∈ (Grid.build ctx ids).tiles) :
    tileIdents t = slotIdents ctx.config.showMeta t.slot := by
  rw [Grid.tiles_build, List.mem_mapIdx] at h
  obtain ⟨i, hi, rfl⟩ := h
  unfold tileIdents slotIdents slotKinds Grid.tile
  cases ctx.config.showMeta <;> rfl

theorem elementIds_build (ctx : Grid.Context) (ids : List StreamId) :
    elementIds (render (grid (Grid.build ctx ids))) =
      (List.range ids.length).flatMap (slotIdents ctx.config.showMeta) := by
  rw [elementIds_grid, ← Grid.map_slot_tiles_build ctx ids, List.flatMap_map]
  exact List.flatMap_congr fun t ht => tileIdents_of_mem ht

end Page

/-- With `c` columns, of which there is at least one, `n` streams fill `n / c` rows, rounded up; all
of them are full but the last, which is not empty.  Row by row the tiles are those of the streams in
their order, each with the slot, the row and the column of its place, its addresses and, if there is
metadata to show, its panel.  The slots are counted from zero, and in the text of the grid there are
the elements of each slot, each of them once, and no others that have an id. -/
theorem slots_of_grid (ctx : Grid.Context) (ids : List StreamId) :
    let g := Grid.build ctx ids
    let c := max ctx.config.columns 1
    let n := ids.length
    let shown := Page.elementIds (Page.render (Page.grid g))
    g.rows.length = (n + c - 1) / c ∧ (∀ row ∈ g.rows.dropLast, row.length = c) ∧
      (∀ row ∈ g.rows.getLast?, 1 ≤ row.length ∧ row.length ≤ c) ∧
      (∀ i, g.tiles[i]? = ids[i]?.map fun id : StreamId => ({
        slot := i, row := i / c, column := i % c, stream := id
        endpoints := compose ctx.baseUrl id
        panel := if ctx.config.showMeta then some (Panel.build ctx.stores ctx.now id)
          else none } : Tile)) ∧
      g.tiles.map (·.slot) = List.range n ∧ shown.Nodup ∧
      ∀ name, name ∈ shown ↔ ∃ slot < n, name = "tile-" ++ toString slot ∨
        ctx.config.showMeta = true ∧ (name = "meta-body-" ++ toString slot ∨
          name = "meta-caption-" ++ toString slot) := by
  intro g c n shown
  have hshown : shown = (List.range n).flatMap (Page.slotIdents ctx.config.showMeta) :=
    Page.elementIds_build ctx ids
  have hmem : ∀ name, name ∈ shown ↔
      ∃ slot < n, name ∈ Page.slotIdents ctx.config.showMeta slot := by
    intro name
    rw [hshown, List.mem_flatMap]
    simp only [List.mem_range]
  refine ⟨Grid.length_rows_build ctx ids, fun row hrow => ?_, fun row hrow => ?_,
    Grid.getElem?_tiles_build ctx ids, Grid.map_slot_tiles_build ctx ids, ?_, fun name => ?_⟩
  · exact Grid.length_of_mem_dropLast_rows ctx ids hrow
  · exact Grid.length_of_mem_rows ctx ids (List.mem_of_getLast? hrow)
  · rw [hshown]
    exact Page.nodup_slotIdents ctx.config.showMeta n
  · rw [hmem]
    simp only [Page.mem_slotIdents]

end VideoWall
