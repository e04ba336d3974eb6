import VideoWall.Proofs.Tiles
import VideoWall.Proofs.Turns

/-!
# What is polled is what is on the page

The selection of the dashboard, the tiles of the page and the targets of the poller are three things.
They agree whatever turns were taken, because no turn leaves a stream selected that the catalog does
not have (`WithinCatalog.change`) and every turn that changes the dashboard hands on its plan.

    an empty catalog leaves nothing selected, so what is polled has a tile     (targets_eq_view)
    the targets of the plan are those of the tiles                       (polled_of_shown_tiles)
-/

namespace VideoWall

/-- What is polled for a tile. -/
def Tile.target (t : Tile) : Target := ⟨t.stream, t.endpoints.metaUrl⟩

namespace Dashboard

/-- Whether every selected stream is in the catalog, if there is a catalog. -/
def WithinCatalog (d : Dashboard) : Prop :=
  ∀ streams, d.catalog = .loaded streams → ∀ id ∈ d.selection, streams.contains id = true

theorem withinCatalog_ofConfig (config : AppConfig) : (ofConfig config).WithinCatalog := by
  intro streams hc
  cases hc

theorem WithinCatalog.change {d e : Dashboard} (h : d.WithinCatalog) (k : d.Change e) :
    e.WithinCatalog := by
  intro streams hc
  cases k with
  | switched base => cases hc
  | selected others ids hloaded hids =>
    have hsame : others = streams := Catalog.loaded.inj (hloaded.symm.trans hc)
    rw [← hsame]
    exact hids
  | configured p => exact h streams hc
  | found others ids hids =>
    rw [← Catalog.loaded.inj hc]
    exact hids
  | lost message => cases hc

/-- The streams that are on the page. -/
def shown (d : Dashboard) : List StreamId := if d.catalog.isLoaded then d.selection else []

/-- There is a tile for each of them: with an empty catalog nothing is selected. -/
theorem tiles_view {d : Dashboard} (h : d.WithinCatalog) (stores : Stores) (now : Instant) :
    (d.view stores now).tiles = (Grid.build (d.context stores now) d.shown).tiles := by
  unfold view shown Catalog.isLoaded Catalog.streams?
  cases hc : d.catalog with
  | pending => rfl
  | failed message => rfl
  | loaded streams =>
    by_cases hempty : streams = []
    · have hnone : d.selection = [] := by
        refine List.eq_nil_iff_forall_not_mem.2 fun id hid => ?_
        have hin := h streams hc id hid
        simp [hempty] at hin
      simp only [hempty, hnone, List.isEmpty_nil, if_true]
      rfl
    · by_cases hsel : d.selection = []
      · simp only [List.isEmpty_iff, hempty, hsel, if_true, if_false]
        rfl
      · simp only [List.isEmpty_iff, hempty, hsel, if_false]
        rfl

theorem map_stream_tiles {d : Dashboard} (h : d.WithinCatalog) (stores : Stores) (now : Instant) :
    (d.view stores now).tiles.map (·.stream) = d.shown := by
  rw [tiles_view h, Grid.map_tiles_build _ _ _ id fun _ _ _ _ => rfl, List.map_id]

theorem targets_eq_shown (d : Dashboard) :
    d.targets = d.shown.map fun id => ⟨id, (compose d.baseUrl id).metaUrl⟩ := by
  unfold targets shown
  cases d.catalog <;> rfl

/-- What is polled is what there is a tile for. -/
theorem targets_eq_view {d : Dashboard} (h : d.WithinCatalog) (stores : Stores) (now : Instant) :
    d.targets = (d.view stores now).tiles.map Tile.target := by
  rw [tiles_view h, targets_eq_shown]
  exact (Grid.map_tiles_build _ d.shown Tile.target _ fun _ _ _ _ => rfl).symm

end Dashboard

namespace Turn

open Run (Carries)

theorem withinCatalog_history (config : AppConfig) (start : Int) (ts : List Turn) :
    (history config start ts).dashboard.WithinCatalog :=
  run_of_change Dashboard.WithinCatalog.change (.new config start) ts
    (Dashboard.withinCatalog_ofConfig config)

/-! ## The latest plan -/

/-- The plans that are handed to the poller in turn. -/
def plans (s : Session) : List Turn → List PlanUpdate
  | [] => []
  | t :: ts => (t.update? s).toList ++ plans (t.next s) ts

/-- The poller has the plan that was handed to it last, which is that of the dashboard; without one
both are as they were. -/
theorem run_cases (s : Session) (ts : List Turn) :
    ((plans s ts).getLast? = none ∧ (run s ts).dashboard = s.dashboard ∧
        (run s ts).timeline.poller.plan = s.timeline.poller.plan) ∨
      ∃ u, (plans s ts).getLast? = some u ∧ Carries (run s ts).timeline.poller.plan u ∧
        u = (run s ts).dashboard.update u.invalidate := by
  induction ts generalizing s with
  | nil => exact .inl ⟨rfl, rfl, rfl⟩
  | cons t ts ih =>
    show ((plans s (t :: ts)).getLast? = none ∧ (run (t.next s) ts).dashboard = s.dashboard ∧
        (run (t.next s) ts).timeline.poller.plan = s.timeline.poller.plan) ∨
      ∃ u, (plans s (t :: ts)).getLast? = some u ∧
        Carries (run (t.next s) ts).timeline.poller.plan u ∧
        u = (run (t.next s) ts).dashboard.update u.invalidate
    rw [plans, List.getLast?_append]
    rcases ih (t.next s) with ⟨hlast, hd, hp⟩ | ⟨u, hlast, hu⟩
    · rw [hlast, hd, hp, Option.none_or]
      rcases next_cases s t with ⟨hsame, hnone, hplan⟩ | ⟨u, -, hgiven, hu, hplan⟩
      · left
        rw [hnone]
        exact ⟨rfl, hsame, hplan⟩
      · right
        refine ⟨u, ?_, ?_, hu⟩
        · rw [hgiven]
          rfl
        · rw [hplan]
          exact ⟨rfl, rfl, rfl, rfl⟩
    · right
      rw [hlast]
      exact ⟨u, rfl, hu⟩

/-- Whatever turns were taken, every selected stream of a loaded catalog is in the catalog, and the
targets of the poller are those of the tiles of the page, slot by slot: there are none where the page
has no grid.  The plan that was handed to the poller last is the one it has, and asks for what the
settings say. -/
theorem polled_of_shown_tiles (config : AppConfig) (start : Int) (ts : List Turn) (now : Instant) :
    let s := history config start ts
    let plan := s.timeline.poller.plan
    (∀ streams, s.dashboard.catalog = .loaded streams →
        ∀ id ∈ s.dashboard.selection, streams.contains id = true) ∧
      (∀ u ∈ (plans (.new config start) ts).getLast?, Carries plan u ∧
        plan.running = s.dashboard.config.running ∧
        plan.interval = s.dashboard.config.interval ∧
        plan.timeout = s.dashboard.config.timeout) ∧
      match (s.snapshot now).view with
      | .grid g =>
        plan.targets = g.tiles.map (fun t => ⟨t.stream, t.endpoints.metaUrl⟩) ∧
          g.tiles.map (·.slot) = List.range g.tiles.length
      | _ => plan.targets = [] := by
  intro s plan
  have hs : s.dashboard.WithinCatalog := withinCatalog_history config start ts
  have hcases : ((plans (.new config start) ts).getLast? = none ∧
        s.dashboard = .ofConfig config ∧ plan = {}) ∨
      ∃ u, (plans (.new config start) ts).getLast? = some u ∧ Carries plan u ∧
        u = s.dashboard.update u.invalidate := run_cases (.new config start) ts
  have htargets : plan.targets = s.dashboard.targets := by
    rcases hcases with ⟨-, hd, hp⟩ | ⟨u, -, hu, hd⟩
    · rw [hp, hd]
      rfl
    · exact hu.targets.trans (congrArg PlanUpdate.targets hd)
  have hview : plan.targets = (s.snapshot now).view.tiles.map Tile.target :=
    htargets.trans (Dashboard.targets_eq_view hs s.timeline.stores now)
  refine ⟨hs, fun u hu => ?_, ?_⟩
  · rcases hcases with ⟨hlast, -, -⟩ | ⟨v, hlast, hv, hd⟩
    · rw [hlast] at hu
      cases hu
    · rw [hlast] at hu
      cases hu
      exact ⟨hv, hv.running.trans (congrArg PlanUpdate.running hd),
        hv.interval.trans (congrArg PlanUpdate.interval hd),
        hv.timeout.trans (congrArg PlanUpdate.timeout hd)⟩
  · cases hg : (s.snapshot now).view with
    | grid g =>
      rw [hg] at hview
      have hslots : (s.snapshot now).view.tiles.map (·.slot) =
          List.range (s.snapshot now).view.tiles.length :=
        s.dashboard.map_slot_view s.timeline.stores now
      rw [hg] at hslots
      exact ⟨hview, hslots⟩
    | _ =>
      rw [hg] at hview
      exact hview

end Turn

end VideoWall
