import Mathlib.Data.List.Basic
import VideoWall.Proofs.Magnitudes
import VideoWall.Proofs.Turns

/-!
# Settings in force

Settings are clamped when a session begins and whenever they are patched, so that at every moment
they lie in their ranges: there is a timer for the interval and a span for the timeout, and polling
never ends.  To clamp twice is to clamp once.  So patches that follow one another come to one patch,
in which each setting has the value that was last written to it, and the values that were written
before leave no trace.

    settings lie in their ranges just if clamping leaves them as they are     (clamped_eq_self_iff)
    patches that follow one another come to one                                       (apply_apply)
    a session has the values that were last written, clamped            (config_of_latest_patches)
-/

namespace VideoWall

/-! ## Ranges -/

theorem clampNat_eq_self_iff {lo hi n : Nat} (h : lo ≤ hi) :
    clampNat lo hi n = n ↔ lo ≤ n ∧ n ≤ hi := by
  unfold clampNat
  omega

theorem clampNat_clampNat {lo hi : Nat} (h : lo ≤ hi) (n : Nat) :
    clampNat lo hi (clampNat lo hi n) = clampNat lo hi n := by
  unfold clampNat
  omega

namespace RefreshConfig

/-- Whether all settings lie in their ranges. -/
structure InRange (c : RefreshConfig) : Prop where
  intervalMs : minIntervalMs ≤ c.intervalMs ∧ c.intervalMs ≤ maxIntervalMs
  timeoutS : TimeoutInRange c.timeoutS
  columns : minColumns ≤ c.columns ∧ c.columns ≤ maxColumns

theorem clamped_eq_self_iff {c : RefreshConfig} : c.clamped = c ↔ c.InRange := by
  have hinterval : clampNat minIntervalMs maxIntervalMs c.intervalMs = c.intervalMs ↔ _ :=
    clampNat_eq_self_iff (by decide)
  have hcolumns : clampNat minColumns maxColumns c.columns = c.columns ↔ _ :=
    clampNat_eq_self_iff (by decide)
  constructor
  · intro h
    exact ⟨hinterval.1 (congrArg RefreshConfig.intervalMs h),
      clampTimeout_eq_self_iff.1 (congrArg RefreshConfig.timeoutS h),
      hcolumns.1 (congrArg RefreshConfig.columns h)⟩
  · intro h
    rw [clamped, hinterval.2 h.intervalMs, clampTimeout_of_inRange h.timeoutS,
      hcolumns.2 h.columns]

theorem clamped_clamped (c : RefreshConfig) : c.clamped.clamped = c.clamped := by
  simp only [clamped, clampNat_clampNat (show minIntervalMs ≤ maxIntervalMs by decide),
    clampNat_clampNat (show minColumns ≤ maxColumns by decide),
    clampTimeout_of_inRange (timeoutInRange_clampTimeout _)]

theorem inRange_clamped (c : RefreshConfig) : c.clamped.InRange :=
  clamped_eq_self_iff.1 (clamped_clamped c)

end RefreshConfig

/-! ## Patches in turn -/

/-- The patch that writes what `q` writes, and else what `p` writes. -/
def ConfigPatch.override (p q : ConfigPatch) : ConfigPatch where
  intervalMs := q.intervalMs.or p.intervalMs
  timeoutS := q.timeoutS.or p.timeoutS
  columns := q.columns.or p.columns
  showMeta := q.showMeta.or p.showMeta
  showLinks := q.showLinks.or p.showLinks
  running := q.running.or p.running

/-- What is written over a value that was clamped comes to the same as over the value itself. -/
theorem getD_clamp {α : Type} {clamp : α → α} (hc : ∀ a, clamp (clamp a) = clamp a)
    (p q : Option α) (a : α) : clamp (q.getD (clamp (p.getD a))) = clamp ((q.or p).getD a) := by
  cases q with
  | none => exact hc _
  | some b => rfl

namespace RefreshConfig

/-- A patch after another comes to both in one. -/
theorem apply_apply (c : RefreshConfig) (p q : ConfigPatch) :
    (c.apply p).apply q = c.apply (p.override q) := by
  have hbool (p q : Option Bool) (b : Bool) : q.getD (p.getD b) = (q.or p).getD b :=
    getD_clamp (fun _ => rfl) p q b
  simp only [apply, override, clamped, ConfigPatch.override, hbool,
    getD_clamp (clampNat_clampNat (show minIntervalMs ≤ maxIntervalMs by decide)),
    getD_clamp (clampNat_clampNat (show minColumns ≤ maxColumns by decide)),
    getD_clamp (fun x => clampTimeout_of_inRange (timeoutInRange_clampTimeout x))]

theorem foldl_apply (c : RefreshConfig) (p : ConfigPatch) (ps : List ConfigPatch) :
    ps.foldl apply (c.apply p) = c.apply (ps.foldl ConfigPatch.override p) := by
  induction ps generalizing p with
  | nil => rfl
  | cons q ps ih => rw [List.foldl_cons, apply_apply, ih, List.foldl_cons]

end RefreshConfig

/-- What was written last to a setting by patches that follow one another, if one of them writes
it. -/
def ConfigPatch.latest {α : Type} (get : ConfigPatch → Option α) (ps : List ConfigPatch) :
    Option α :=
  ps.reverse.findSome? get

theorem ConfigPatch.get_foldl_override {α : Type} {get : ConfigPatch → Option α}
    (hget : ∀ p q, get (p.override q) = (get q).or (get p)) (p : ConfigPatch)
    (ps : List ConfigPatch) : get (ps.foldl override p) = (latest get ps).or (get p) := by
  induction ps generalizing p with
  | nil => rfl
  | cons q ps ih =>
    rw [List.foldl_cons, ih, hget, latest, latest, List.reverse_cons, List.findSome?_append,
      Option.or_assoc, List.findSome?_singleton]

namespace RefreshConfig

open ConfigPatch (latest)

/-- The settings with the value in each that was last written to it. -/
def rewritten (c : RefreshConfig) (ps : List ConfigPatch) : RefreshConfig where
  intervalMs := (latest (·.intervalMs) ps).getD c.intervalMs
  timeoutS := (latest (·.timeoutS) ps).getD c.timeoutS
  columns := (latest (·.columns) ps).getD c.columns
  showMeta := (latest (·.showMeta) ps).getD c.showMeta
  showLinks := (latest (·.showLinks) ps).getD c.showLinks
  running := (latest (·.running) ps).getD c.running

/-- Clamping after every patch comes to clamping once what was written last. -/
theorem foldl_apply_clamped (c : RefreshConfig) (ps : List ConfigPatch) :
    ps.foldl apply c.clamped = (c.rewritten ps).clamped := by
  have hlatest {α : Type} (get : ConfigPatch → Option α) (hnone : get {} = none)
      (hget : ∀ p q, get (p.override q) = (get q).or (get p)) :
      get (ps.foldl ConfigPatch.override {}) = latest get ps := by
    rw [ConfigPatch.get_foldl_override hget, hnone, Option.or_none]
  have hempty : c.clamped = c.apply {} := congrArg clamped (show c = c.override {} from rfl)
  rw [hempty, foldl_apply, apply, override, hlatest (·.intervalMs) rfl fun _ _ => rfl,
    hlatest (·.timeoutS) rfl fun _ _ => rfl, hlatest (·.columns) rfl fun _ _ => rfl,
    hlatest (·.showMeta) rfl fun _ _ => rfl, hlatest (·.showLinks) rfl fun _ _ => rfl,
    hlatest (·.running) rfl fun _ _ => rfl, rewritten]

/-- Settings in their ranges have a timer. -/
theorem InRange.isSome_start {c : RefreshConfig} (h : c.InRange) (now : Nat) :
    (Ticker.start? c.interval now).isSome = true := by
  have hpos : 0 < c.interval.ceilMillis := by
    rw [interval, Span.ceilMillis_ofMillis]
    exact Nat.lt_of_lt_of_le (by decide) h.intervalMs.1
  rw [Ticker.start?, dif_pos hpos, Option.isSome_some]

end RefreshConfig

/-! ## Polling that goes on -/

namespace Poller

/-- Whether polling goes on, and will when the poller turns to its plan. -/
structure Lives (p : Poller) : Prop where
  ticker : p.ticker.isSome = true
  plan : ∀ now, (Ticker.start? p.plan.interval now).isSome = true

theorem Lives.adopt {p : Poller} (h : p.Lives) (now : Nat) : (p.adopt now).Lives := by
  obtain ⟨ticker, hticker⟩ := Option.isSome_iff_exists.1 h.ticker
  simp only [Poller.adopt, hticker]
  refine ⟨?_, h.plan⟩
  dsimp only
  split
  · exact h.plan now
  · rfl

end Poller

/-! ## The settings of a session -/

namespace Turn

/-- The patch that a turn applies. -/
def patch? : Turn → Option ConfigPatch
  | configure patch => some patch
  | _ => none

theorem config_next (s : Session) (t : Turn) :
    (t.next s).dashboard.config = match t.patch? with
      | some p => s.dashboard.config.apply p
      | none => s.dashboard.config := by
  rw [dashboard_next]
  cases t with
  | switch text =>
    simp only [dashboard?, patch?]
    cases hmade : s.dashboard.switch text with
    | error e => rfl
    | ok d =>
      obtain ⟨-, rfl⟩ := Dashboard.eq_of_switch hmade
      simp only [Except.toOption, Option.getD_some]
  | answer n =>
    cases hmade : (answer n).dashboard? s with
    | none => rfl
    | some e =>
      obtain ⟨d, -, hmade⟩ := Option.bind_eq_some_iff.1 hmade
      obtain ⟨-, ⟨streams, -, rfl⟩ | ⟨failure, -, -, rfl⟩⟩ := Dashboard.eq_of_discovered hmade
      · rfl
      · rfl
  | select raws =>
    cases hmade : (select raws).dashboard? s with
    | none => rfl
    | some e =>
      simp only [dashboard?] at hmade
      obtain ⟨streams, -, -, rfl⟩ := Dashboard.eq_of_select (eq_ok_of_toOption hmade)
      rfl
  | _ => rfl

theorem config_run (s : Session) (ts : List Turn) :
    (run s ts).dashboard.config = (ts.filterMap patch?).foldl .apply s.dashboard.config := by
  induction ts generalizing s with
  | nil => rfl
  | cons t ts ih =>
    have hnext : (run s (t :: ts)).dashboard.config =
        (ts.filterMap patch?).foldl .apply (t.next s).dashboard.config := ih (t.next s)
    rw [hnext, config_next, List.filterMap_cons]
    cases t.patch? <;> rfl

theorem config_history (app : AppConfig) (start : Int) (ts : List Turn) :
    (history app start ts).dashboard.config =
      (app.refresh.rewritten (ts.filterMap patch?)).clamped := by
  rw [history, config_run]
  exact RefreshConfig.foldl_apply_clamped app.refresh _

/-! ## The timer -/

theorem isSome_ticker_next (s : Session) (t : Turn) :
    (t.next s).timeline.poller.ticker.isSome =
      match t with
      | adopt => (s.timeline.poller.adopt s.timeline.now).ticker.isSome
      | _ => s.timeline.poller.ticker.isSome := by
  cases t with
  | switch text =>
    simp only [next]
    split <;> rfl
  | answer n =>
    cases hd : s.discoveries[n]? with
    | none => rw [next_answer_none hd]
    | some d =>
      rw [next_answer_some hd, timeline_finish]
      dsimp only
      split <;> rfl
  | select raws =>
    rw [next_select]
    split <;> rfl
  | tick => exact Option.isSome_map
  | _ => rfl

theorem inRange_next {s : Session} (hc : s.dashboard.config.InRange) (t : Turn) :
    (t.next s).dashboard.config.InRange := by
  rw [config_next]
  cases t.patch? with
  | none => exact hc
  | some p => exact RefreshConfig.inRange_clamped _

theorem lives_next {s : Session} (h : s.timeline.poller.Lives)
    (hc : s.dashboard.config.InRange) (t : Turn) : (t.next s).timeline.poller.Lives := by
  constructor
  · rw [isSome_ticker_next]
    split
    · exact (h.adopt s.timeline.now).ticker
    · exact h.ticker
  · rcases next_cases s t with ⟨-, -, hplan⟩ | ⟨u, -, -, hu, hplan⟩
    · rw [hplan]
      exact h.plan
    · rw [hplan, hu]
      exact (inRange_next hc t).isSome_start

/-- The poller lives on as long as settings in their ranges are in force. -/
theorem lives_run {s : Session} (h : s.timeline.poller.Lives) (hc : s.dashboard.config.InRange)
    (ts : List Turn) :
    (run s ts).timeline.poller.Lives ∧ (run s ts).dashboard.config.InRange := by
  induction ts generalizing s with
  | nil => exact ⟨h, hc⟩
  | cons t ts ih => exact ih (lives_next h hc t) (inRange_next hc t)

theorem lives_new (app : AppConfig) (start : Int) :
    (Session.new app start).timeline.poller.Lives where
  ticker := rfl
  plan now := by
    have hpos : 0 < (Session.new app start).timeline.poller.plan.interval.ceilMillis :=
      Nat.lt_of_lt_of_eq (by decide) (Span.ceilMillis_ofMillis 500).symm
    rw [Ticker.start?, dif_pos hpos, Option.isSome_some]

/-- Whatever settings a session is given and whatever patches are applied, the settings in force lie
in their ranges: there is a timer for the interval, polling has not ended, and the timeout is a
span.  Each of them is what was last written to it, or what the session was given, clamped; for a
patch after another comes to both in one. -/
theorem config_of_latest_patches (app : AppConfig) (start : Int) (ts : List Turn) :
    let s := history app start ts
    let ps := ts.filterMap patch?
    s.dashboard.config.InRange ∧
      ((∀ now, (Ticker.start? s.dashboard.config.interval now).isSome = true) ∧
        s.timeline.poller.ticker.isSome = true) ∧
      (∃ span, Span.ofSeconds? s.dashboard.config.timeoutS = some span ∧
        200000000 ≤ span.nanoseconds ∧ span.nanoseconds ≤ 3000000000) ∧
      s.dashboard.config = ps.foldl .apply app.refresh.clamped ∧
      s.dashboard.config = (app.refresh.rewritten ps).clamped ∧
      ∀ (c : RefreshConfig) (p q : ConfigPatch), (c.apply p).apply q = c.apply (p.override q) := by
  intro s ps
  obtain ⟨hlives, hc⟩ : s.timeline.poller.Lives ∧ s.dashboard.config.InRange :=
    lives_run (lives_new app start) (RefreshConfig.inRange_clamped app.refresh) ts
  exact ⟨hc, ⟨hc.isSome_start, hlives.ticker⟩, exists_span_of_inRange hc.timeoutS,
    config_run _ ts, config_history app start ts, RefreshConfig.apply_apply⟩

end Turn

end VideoWall
