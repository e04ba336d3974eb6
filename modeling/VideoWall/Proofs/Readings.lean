import VideoWall.Proofs.Layouts

/-!
# Two readings of one dashboard

A page is made of a snapshot, and from then on its panels are read alone.  The snapshot puts them
into the rows of a grid and has views without any; the panels are a plain list over the selection.
Both readings come to the same, because nothing is selected from an empty catalog and nothing is
shown without one.

    the panels of the tiles, row by row, are those of the plain list        (map_panel_tiles_view)
    a snapshot and the panels that are read at the same moment agree          (panels_of_snapshot)
-/

namespace VideoWall

namespace Dashboard

variable {d : Dashboard} {stores : Stores} {now : Instant}

theorem eq_build_of_view {g : Grid} (h : d.view stores now = .grid g) :
    g = Grid.build (d.context stores now) d.selection := by
  unfold view at h
  split at h
  · cases h
  · cases h
  · split at h
    · cases h
    · split at h
      · cases h
      · exact (View.grid.inj h).symm

/-- With panels on the page, the tiles have those of the plain list, in its order. -/
theorem map_panel_tiles_view (h : d.WithinCatalog) (hmeta : d.config.showMeta = true) :
    (d.view stores now).tiles.map (·.panel) = (d.panels stores now).panels.map some := by
  have hpanelled : d.panelled = d.shown := if_pos hmeta
  have htile : ∀ t ∈ (d.view stores now).tiles,
      t.panel = some (Panel.build stores now t.stream) := by
    intro t ht
    rw [panel_of_mem_tiles h ht, if_pos hmeta]
  calc (d.view stores now).tiles.map (·.panel)
      = (d.view stores now).tiles.map fun t => some (Panel.build stores now t.stream) :=
        List.map_congr_left htile
    _ = ((d.view stores now).tiles.map (·.stream)).map (some ∘ Panel.build stores now) := by
        rw [List.map_map]
        rfl
    _ = (d.shown.map (Panel.build stores now)).map some := by
        rw [map_stream_tiles h, List.map_map]
    _ = (d.panels stores now).panels.map some := by rw [panels_eq_panelled, hpanelled]

/-- Without panels on the page there are none in the plain list either. -/
theorem panels_eq_nil (hmeta : d.config.showMeta = false) : (d.panels stores now).panels = [] := by
  rw [panels_eq_panelled, panelled, hmeta]
  rfl

/-- A page without tiles has no panels. -/
theorem panels_eq_nil_of_tiles (h : d.WithinCatalog) (hnone : (d.view stores now).tiles = []) :
    (d.panels stores now).panels = [] := by
  cases hmeta : d.config.showMeta with
  | true =>
    have hmap : (d.view stores now).tiles.map (·.panel) = (d.panels stores now).panels.map some :=
      map_panel_tiles_view h hmeta
    rw [hnone] at hmap
    exact List.map_eq_nil_iff.1 hmap.symm
  | false => exact panels_eq_nil hmeta

end Dashboard

namespace Turn

/-- Whatever turns were taken, a snapshot and the panels read at the same moment agree.  If there is
a grid, its tiles have the panels of the list, row by row, or there are none in either; and no other
view comes with panels.  Layout version and settings are those in force in both. -/
theorem panels_of_snapshot (config : AppConfig) (start : Int) (ts : List Turn) (now : Instant) :
    let s := history config start ts
    let d := s.dashboard
    let page := s.snapshot now
    let read := s.panels now
    (match page.view with
      | .grid g =>
        g.layoutVersion = d.layoutVersion ∧ g.showMeta = d.config.showMeta ∧
          if d.config.showMeta then g.tiles.map (·.panel) = read.panels.map some
          else read.panels = [] ∧ ∀ t ∈ g.tiles, t.panel = none
      | _ => read.panels = []) ∧
      page.layoutVersion = d.layoutVersion ∧ read.layoutVersion = d.layoutVersion ∧
      page.config = d.config ∧ read.intervalMs = d.config.intervalMs ∧
      read.running = d.config.running := by
  intro s d page read
  have hd : d.WithinCatalog := withinCatalog_history config start ts
  refine ⟨?_, rfl, rfl, rfl, rfl, rfl⟩
  cases hg : page.view with
  | grid g =>
    have hview : d.view s.timeline.stores now = .grid g := hg
    have htiles : (d.view s.timeline.stores now).tiles = g.tiles := by
      rw [hview]
      rfl
    refine ⟨?_, ?_, ?_⟩
    · rw [Dashboard.eq_build_of_view hview]
      rfl
    · rw [Dashboard.eq_build_of_view hview]
      rfl
    · rw [← htiles]
      split
      · next hmeta => exact Dashboard.map_panel_tiles_view hd hmeta
      · next hmeta =>
        rw [Bool.not_eq_true] at hmeta
        refine ⟨Dashboard.panels_eq_nil hmeta, fun t ht => ?_⟩
        rw [Dashboard.panel_of_mem_tiles hd ht, hmeta]
        rfl
  | _ =>
    have hview : (d.view s.timeline.stores now).tiles = View.tiles page.view := rfl
    rw [hg] at hview
    exact Dashboard.panels_eq_nil_of_tiles hd hview

end Turn

end VideoWall
