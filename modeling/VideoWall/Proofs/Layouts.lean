import VideoWall.Proofs.Idents
import VideoWall.Proofs.Polled

/-!
# Layouts and their versions

A page puts each panel into the tile whose slot is the place of the panel in the answer, and it does
so as long as the answers come with the layout version it was written for.  A version therefore has
to stand for one layout in the whole of a session, and what does not touch the layout has to leave
the version, or the page would be loaded anew for nothing.

    versions never fall, and another layout has another version                    (leadsTo_run)
    a page has a place for just the panels of any moment with its version
                                                               (same_layout_of_same_version)
-/

namespace VideoWall

/-- What decides which elements there are on a page. -/
structure Layout where
  baseUrl : String
  catalog : Catalog
  selection : List StreamId
  columns : Nat
  showMeta : Bool
  showLinks : Bool

/-- Whether the settings of a patch that concern the layout are those in force. -/
def ConfigPatch.KeepsLayout (p : ConfigPatch) (c : RefreshConfig) : Prop :=
  (∀ n ∈ p.columns, clampNat minColumns maxColumns n = c.columns) ∧
    (∀ b ∈ p.showMeta, b = c.showMeta) ∧ ∀ b ∈ p.showLinks, b = c.showLinks

namespace Dashboard

def layout (d : Dashboard) : Layout where
  baseUrl := d.baseUrl
  catalog := d.catalog
  selection := d.selection
  columns := d.config.columns
  showMeta := d.config.showMeta
  showLinks := d.config.showLinks

/-! ## Versions -/

/-- Whether `e` may come after `d`: its version is not lower, and if it is the same, so is the
layout. -/
structure LeadsTo (d e : Dashboard) : Prop where
  version_le : d.layoutVersion ≤ e.layoutVersion
  layout_eq : d.layoutVersion = e.layoutVersion → d.layout = e.layout

theorem LeadsTo.refl (d : Dashboard) : d.LeadsTo d := ⟨Nat.le_refl _, fun _ => rfl⟩

theorem LeadsTo.trans {d e f : Dashboard} (h : d.LeadsTo e) (k : e.LeadsTo f) : d.LeadsTo f := by
  have hle := h.version_le
  have kle := k.version_le
  refine ⟨Nat.le_trans hle kle, fun heq => ?_⟩
  -- the version between two equal ones is the same again
  have hmid : d.layoutVersion = e.layoutVersion := by omega
  exact (h.layout_eq hmid).trans (k.layout_eq (hmid.symm.trans heq))

theorem LeadsTo.of_raised {d e : Dashboard} (h : e.layoutVersion = d.layoutVersion + 1) :
    d.LeadsTo e := by
  refine ⟨by omega, fun heq => ?_⟩
  omega

/-- A patch raises the version just if it changes the layout. -/
theorem updateConfig_cases (d : Dashboard) (p : ConfigPatch) :
    ((d.updateConfig p).layout = d.layout ∧
        (d.updateConfig p).layoutVersion = d.layoutVersion) ∨
      (d.updateConfig p).layout ≠ d.layout ∧
        (d.updateConfig p).layoutVersion = d.layoutVersion + 1 := by
  have hlayout : (d.updateConfig p).layout = d.layout ↔
      (d.config.apply p).columns = d.config.columns ∧
        (d.config.apply p).showMeta = d.config.showMeta ∧
        (d.config.apply p).showLinks = d.config.showLinks := by
    simp only [updateConfig, layout, Layout.mk.injEq, true_and]
  by_cases hsame : (d.updateConfig p).layout = d.layout
  · obtain ⟨hcolumns, hmeta, hlinks⟩ := hlayout.1 hsame
    refine .inl ⟨hsame, ?_⟩
    simp [updateConfig, hcolumns, hmeta, hlinks]
  · refine .inr ⟨hsame, ?_⟩
    rw [hlayout, Decidable.not_and_iff_not_or_not, Decidable.not_and_iff_not_or_not, ← or_assoc]
      at hsame
    simp [updateConfig, hsame]

theorem LeadsTo.of_change {d e : Dashboard} (h : d.Change e) : d.LeadsTo e := by
  cases h with
  | configured p =>
    rcases d.updateConfig_cases p with ⟨hlayout, hversion⟩ | ⟨-, hversion⟩
    · exact ⟨Nat.le_of_eq hversion.symm, fun _ => hlayout.symm⟩
    · exact .of_raised hversion
  | _ => exact .of_raised rfl

/-! ## What leaves the layout as it is -/

/-- Whether the columns are in their range. -/
def InRange (d : Dashboard) : Prop :=
  clampNat minColumns maxColumns d.config.columns = d.config.columns

theorem inRange_ofConfig (config : AppConfig) : (ofConfig config).InRange := by
  simp only [InRange, ofConfig, RefreshConfig.clamped, clampNat]
  omega

theorem InRange.change {d e : Dashboard} (h : d.InRange) (k : d.Change e) : e.InRange := by
  cases k with
  | configured p =>
    simp only [InRange, updateConfig, RefreshConfig.apply, RefreshConfig.clamped, clampNat]
    omega
  | _ => exact h

theorem InRange.layout_updateConfig {d : Dashboard} (h : d.InRange) {p : ConfigPatch}
    (hp : p.KeepsLayout d.config) : (d.updateConfig p).layout = d.layout := by
  obtain ⟨hcolumns, hmeta, hlinks⟩ := hp
  have hflag : ∀ (o : Option Bool) (b : Bool), (∀ a ∈ o, a = b) → o.getD b = b := by
    intro o b ho
    cases o with
    | none => rfl
    | some a => exact ho a rfl
  have hc : clampNat minColumns maxColumns (p.columns.getD d.config.columns) =
      d.config.columns := by
    cases hn : p.columns with
    | none => exact h
    | some n => exact hcolumns n hn
  simp only [updateConfig, layout, RefreshConfig.apply, RefreshConfig.clamped,
    RefreshConfig.override, hc, hflag _ _ hmeta, hflag _ _ hlinks]

/-! ## Tiles and panels -/

/-- The streams that have a panel on the page. -/
def panelled (d : Dashboard) : List StreamId := if d.config.showMeta then d.shown else []

theorem panelled_eq_of_layout_eq {d e : Dashboard} (h : d.layout = e.layout) :
    d.panelled = e.panelled := by
  have hcatalog : d.catalog = e.catalog := congrArg Layout.catalog h
  have hselection : d.selection = e.selection := congrArg Layout.selection h
  have hmeta : d.config.showMeta = e.config.showMeta := congrArg Layout.showMeta h
  rw [panelled, panelled, shown, shown, hcatalog, hselection, hmeta]

theorem panels_eq_panelled (d : Dashboard) (stores : Stores) (now : Instant) :
    (d.panels stores now).panels = d.panelled.map (Panel.build stores now) := by
  unfold panels panelled shown
  cases d.config.showMeta <;> cases d.catalog.isLoaded <;> rfl

theorem map_stream_panels (d : Dashboard) (stores : Stores) (now : Instant) :
    (d.panels stores now).panels.map (·.stream) = d.panelled := by
  rw [panels_eq_panelled, List.map_map]
  exact List.map_id d.panelled

/-- A tile has the panel of its stream, if panels are shown at all. -/
theorem panel_of_mem_tiles {d : Dashboard} (h : d.WithinCatalog) {stores : Stores} {now : Instant}
    {t : Tile} (ht : t ∈ (d.view stores now).tiles) :
    t.panel = if d.config.showMeta then some (Panel.build stores now t.stream) else none := by
  rw [tiles_view h, Grid.tiles_build, List.mem_mapIdx] at ht
  obtain ⟨i, hi, rfl⟩ := ht
  rfl

theorem filter_tiles_view {d : Dashboard} (h : d.WithinCatalog) (stores : Stores) (now : Instant) :
    (d.view stores now).tiles.filter (·.panel.isSome) =
      if d.config.showMeta then (d.view stores now).tiles else [] := by
  cases hmeta : d.config.showMeta with
  | true =>
    refine List.filter_eq_self.2 fun t ht => ?_
    rw [panel_of_mem_tiles h ht, hmeta]
    rfl
  | false =>
    refine List.filter_eq_nil_iff.2 fun t ht => ?_
    rw [panel_of_mem_tiles h ht, hmeta]
    exact Bool.false_ne_true

/-- A page has the body of a panel for each stream that has one. -/
theorem bodies_snapshot {d : Dashboard} (h : d.WithinCatalog) (stores : Stores) (now : Instant) :
    Page.bodies (Page.page (d.snapshot stores now)) =
      (List.range d.panelled.length).map Page.bodyIdent := by
  have hlength : (d.view stores now).tiles.length = d.shown.length := by
    rw [tiles_view h, Grid.tiles_build, List.length_mapIdx]
  have hslots : (d.view stores now).tiles.map (fun t => Page.bodyIdent t.slot) =
      (List.range d.shown.length).map Page.bodyIdent := by
    rw [← hlength, ← map_slot_view, List.map_map]
    rfl
  show Page.bodies (Page.page (d.snapshot stores now)) = _
  rw [Page.bodies_page]
  show ((d.view stores now).tiles.filter (·.panel.isSome)).map _ = _
  rw [filter_tiles_view h, panelled]
  cases d.config.showMeta with
  | true => exact hslots
  | false => rfl

/-- The tile for a panel is the one whose slot is the place of the panel. -/
theorem tile_of_panelled {d : Dashboard} (h : d.WithinCatalog) (stores : Stores) (now : Instant)
    {k : Nat} {id : StreamId} (hk : d.panelled[k]? = some id) :
    (∃ t ∈ (d.view stores now).tiles, t.slot = k) ∧
      ∀ t ∈ (d.view stores now).tiles, t.slot = k → t.stream = id := by
  have hshown : d.shown[k]? = some id := by
    rw [panelled] at hk
    split at hk
    · exact hk
    · cases hk
  refine ⟨?_, fun t ht hslot => ?_⟩
  · have hlt : k < (d.view stores now).tiles.length := by
      rw [tiles_view h, Grid.tiles_build, List.length_mapIdx]
      exact (List.getElem?_eq_some_iff.1 hshown).1
    exact List.mem_map.1 (d.map_slot_view stores now ▸ List.mem_range.2 hlt)
  · rw [tiles_view h] at ht
    have hstream := Grid.getElem?_slot_of_mem _ _ ht
    rw [hslot, hshown] at hstream
    exact (Option.some.inj hstream).symm

end Dashboard

/-! ## Whole sessions -/

namespace Turn

theorem leadsTo_run (s : Session) (ts : List Turn) : s.dashboard.LeadsTo (run s ts).dashboard :=
  run_of_change (fun h k => h.trans (.of_change k)) s ts (.refl s.dashboard)

/-- Of two moments of a session the later one comes after the earlier one. -/
theorem leadsTo_run_take (s : Session) (ts : List Turn) {i j : Nat} (h : i ≤ j) :
    (run s (ts.take i)).dashboard.LeadsTo (run s (ts.take j)).dashboard := by
  have hsplit : ts.take j = ts.take i ++ (ts.drop i).take (j - i) := by
    rw [← List.take_add, Nat.add_sub_cancel' h]
  rw [hsplit, run_append]
  exact leadsTo_run _ _

theorem layout_eq_of_version_eq (s : Session) (ts : List Turn) {i j : Nat}
    (h : (run s (ts.take i)).dashboard.layoutVersion =
      (run s (ts.take j)).dashboard.layoutVersion) :
    (run s (ts.take i)).dashboard.layout = (run s (ts.take j)).dashboard.layout := by
  rcases Nat.le_total i j with hij | hji
  · exact (leadsTo_run_take s ts hij).layout_eq h
  · exact ((leadsTo_run_take s ts hji).layout_eq h.symm).symm

theorem inRange_history (config : AppConfig) (start : Int) (ts : List Turn) :
    (history config start ts).dashboard.InRange :=
  run_of_change Dashboard.InRange.change (.new config start) ts (Dashboard.inRange_ofConfig config)

/-- Whether a turn is one after which the page is not loaded anew: a switch or a selection that is
refused, a patch of other settings, an answer from elsewhere, a rescan that fails over a loaded
catalog, or anything that is no operation on the dashboard at all. -/
def KeepsLayout (s : Session) : Turn → Prop
  | switch text => ∃ e, s.dashboard.switch text = .error e
  | answer n =>
    ∃ d ∈ s.discoveries[n]?, d.baseUrl ≠ s.dashboard.baseUrl ∨
      d.keepSelection = true ∧ s.dashboard.catalog.isLoaded = true ∧
        ∃ failure, decodeStreams d.reply.outcome = .error failure
  | select raws => ∃ e, s.dashboard.select raws = .error e
  | configure patch => patch.KeepsLayout s.dashboard.config
  | _ => True

theorem KeepsLayout.layoutVersion_next {s : Session} (hs : s.dashboard.InRange) {t : Turn}
    (h : t.KeepsLayout s) : (t.next s).dashboard.layoutVersion = s.dashboard.layoutVersion := by
  rw [dashboard_next]
  cases t with
  | switch text =>
    obtain ⟨e, he⟩ := h
    rw [dashboard?, he]
    rfl
  | answer n =>
    obtain ⟨d, hd, hkept⟩ := h
    have hnone : s.dashboard.discovered d.baseUrl d.keepSelection
        (decodeStreams d.reply.outcome) = none := by
      rcases hkept with hbase | ⟨hkeep, hloaded, failure, hfailure⟩
      · exact Dashboard.discovered_of_ne (Ne.symm hbase) _ _
      · rw [hkeep, hfailure]
        exact Dashboard.discovered_of_loaded hloaded _ _
    rw [dashboard?_answer hd, hnone]
    rfl
  | select raws =>
    obtain ⟨e, he⟩ := h
    rw [dashboard?, he]
    rfl
  | configure patch =>
    rcases s.dashboard.updateConfig_cases patch with ⟨-, hversion⟩ | ⟨hlayout, -⟩
    · exact hversion
    · exact absurd (hs.layout_updateConfig h) hlayout
  | _ => rfl

/-- If the layout versions of two moments of a session are the same, so are the layouts; the page
of the one has a place for each panel of the other and for no more, and the tile of that place is for
the stream of the panel.  Versions never fall, and they stay as they are in the turns that leave the
layout as it is. -/
theorem same_layout_of_same_version (config : AppConfig) (start : Int) (ts : List Turn) (i j : Nat)
    (now later : Instant) :
    let s := history config start (ts.take i)
    let t := history config start (ts.take j)
    let tiles := (s.snapshot now).view.tiles
    let panels := (t.panels later).panels
    (s.dashboard.layoutVersion = t.dashboard.layoutVersion →
        s.dashboard.layout = t.dashboard.layout ∧
        Page.bodies (Page.page (s.snapshot now)) =
          (List.range panels.length).map Page.bodyIdent ∧
        ∀ k p, panels[k]? = some p →
          (∃ tile ∈ tiles, tile.slot = k) ∧
            ∀ tile ∈ tiles, tile.slot = k → tile.stream = p.stream) ∧
      (i ≤ j → s.dashboard.layoutVersion ≤ t.dashboard.layoutVersion) ∧
      ∀ turn : Turn, turn.KeepsLayout s →
        (turn.next s).dashboard.layoutVersion = s.dashboard.layoutVersion := by
  intro s t tiles panels
  have hs : s.dashboard.WithinCatalog := withinCatalog_history config start (ts.take i)
  have hstreams : panels.map (·.stream) = t.dashboard.panelled :=
    t.dashboard.map_stream_panels t.timeline.stores later
  refine ⟨fun hversion => ?_, fun hij => ?_, fun turn hturn => ?_⟩
  · have hlayout : s.dashboard.layout = t.dashboard.layout :=
      layout_eq_of_version_eq (.new config start) ts hversion
    have hpanelled : s.dashboard.panelled = panels.map (·.stream) :=
      (Dashboard.panelled_eq_of_layout_eq hlayout).trans hstreams.symm
    refine ⟨hlayout, ?_, fun k p hk => ?_⟩
    · have hbodies := Dashboard.bodies_snapshot hs s.timeline.stores now
      rw [hpanelled, List.length_map] at hbodies
      exact hbodies
    · refine Dashboard.tile_of_panelled hs s.timeline.stores now ?_
      rw [hpanelled, List.getElem?_map, hk]
      rfl
  · exact (leadsTo_run_take (.new config start) ts hij).version_le
  · exact hturn.layoutVersion_next (inRange_history config start (ts.take i))

/-- Two streams are on the page; then the interval is changed and the first fetches end. -/
theorem same_layout_after_fetches :
    let ts := [serve "http://localhost:8080/streams" { body := "[\"a\",\"b\"]".toUTF8.toList },
      send false, answer 0, configure { intervalMs := some 700 }, adopt, tick, pass, collect]
    let s := history {} 0 (ts.take 3)
    let t := history {} 0 (ts.take 8)
    let panels := (t.panels t.now).panels
    s.dashboard.layoutVersion = t.dashboard.layoutVersion ∧
      s.dashboard.config.intervalMs ≠ t.dashboard.config.intervalMs ∧ panels.length = 2 ∧
      s.dashboard.layout = t.dashboard.layout ∧
      Page.bodies (Page.page (s.snapshot s.now)) = [Page.bodyIdent 0, Page.bodyIdent 1] := by
  intro ts s t panels
  have hversion : s.dashboard.layoutVersion = t.dashboard.layoutVersion := by decide +kernel
  have hinterval : s.dashboard.config.intervalMs ≠ t.dashboard.config.intervalMs := by
    decide +kernel
  have hlength : panels.length = 2 := by decide +kernel
  obtain ⟨hlayout, hbodies, -⟩ := (same_layout_of_same_version {} 0 ts 3 8 s.now t.now).1 hversion
  refine ⟨hversion, hinterval, hlength, hlayout, hbodies.trans ?_⟩
  show (List.range panels.length).map Page.bodyIdent = _
  rw [hlength]
  rfl

end Turn

end VideoWall
