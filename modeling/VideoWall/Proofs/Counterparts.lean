import VideoWall.Proofs.Selections
import VideoWall.Proofs.Spellings

/-!
# Sessions with the same polling

Two sessions in which the same is polled may differ in what else is on the page, in how streams are
spelled, and in the catalog.  The same action keeps the same polled in both, unless a stream is
selected that only one of the catalogs has; and so does the answer to the same discovery.

    dashboards that are polled alike ask the poller for the same       (PolledAlike.full_update)
    an action leaves sessions aligned                                           (Aligned.begin)
    an answer leaves sessions aligned                                         (Aligned.answers)
-/

namespace VideoWall

/-! ## Dashboards that are polled alike -/

namespace Dashboard

/-- Whether the same is polled for two dashboards, however it is spelled, and the same would be
selected. -/
structure PolledAlike (d e : Dashboard) : Prop where
  baseUrl : d.baseUrl = e.baseUrl
  intervalMs : d.config.intervalMs = e.config.intervalMs
  timeoutS : d.config.timeoutS = e.config.timeoutS
  running : d.config.running = e.config.running
  isLoaded : d.catalog.isLoaded = e.catalog.isLoaded
  selection : d.selection.map StreamId.full = e.selection.map StreamId.full
  defaultSelection : d.defaultSelection = e.defaultSelection

theorem map_full_targets (d : Dashboard) :
    d.targets.map Target.full =
      (d.shown.map StreamId.full).map fun id => ⟨id, (compose d.baseUrl id).metaUrl⟩ := by
  rw [targets_eq_shown, List.map_map, List.map_map]
  refine List.map_congr_left fun id _ => ?_
  rw [Function.comp_apply, Function.comp_apply, compose_full]
  rfl

namespace PolledAlike

variable {d e : Dashboard}

theorem refl (d : Dashboard) : d.PolledAlike d := ⟨rfl, rfl, rfl, rfl, rfl, rfl, rfl⟩

theorem trans {f : Dashboard} (h : d.PolledAlike e) (k : e.PolledAlike f) : d.PolledAlike f where
  baseUrl := h.baseUrl.trans k.baseUrl
  intervalMs := h.intervalMs.trans k.intervalMs
  timeoutS := h.timeoutS.trans k.timeoutS
  running := h.running.trans k.running
  isLoaded := h.isLoaded.trans k.isLoaded
  selection := h.selection.trans k.selection
  defaultSelection := h.defaultSelection.trans k.defaultSelection

/-- The poller is asked for the same. -/
theorem full_update (h : d.PolledAlike e) (invalidate : Bool) :
    (d.update invalidate).full = (e.update invalidate).full := by
  have hshown : d.shown.map StreamId.full = e.shown.map StreamId.full := by
    simp only [shown, h.isLoaded]
    split
    · exact h.selection
    · rfl
  have htargets : d.targets.map Target.full = e.targets.map Target.full := by
    rw [map_full_targets, map_full_targets, hshown, h.baseUrl]
  simp only [update, PlanUpdate.full, htargets, RefreshConfig.interval, RefreshConfig.timeout,
    h.intervalMs, h.timeoutS, h.running]

theorem timeout (h : d.PolledAlike e) : d.config.timeout = e.config.timeout := by
  rw [RefreshConfig.timeout, RefreshConfig.timeout, h.timeoutS]

theorem updateConfig (h : d.PolledAlike e) (p : ConfigPatch) :
    (d.updateConfig p).PolledAlike (e.updateConfig p) :=
  { h with
    intervalMs := congrArg
      (fun ms => clampNat minIntervalMs maxIntervalMs (p.intervalMs.getD ms)) h.intervalMs
    timeoutS := congrArg (fun s => clampTimeout (p.timeoutS.getD s)) h.timeoutS
    running := congrArg p.running.getD h.running }

theorem switch (h : d.PolledAlike e) (text : String) :
    (∃ failure, d.switch text = .error failure ∧ e.switch text = .error failure) ∨
      ∃ f g, d.switch text = .ok f ∧ e.switch text = .ok g ∧ f.PolledAlike g ∧
        f.catalog = g.catalog := by
  by_cases hbase : baseOf text = ""
  · left
    exact ⟨_, if_pos hbase, if_pos hbase⟩
  · right
    exact ⟨_, _, if_neg hbase, if_neg hbase,
      { h with baseUrl := rfl, isLoaded := rfl, selection := rfl }, rfl⟩

theorem select (h : d.PolledAlike e) {raws : List String} {f g : Dashboard}
    (hf : d.select raws = .ok f) (hg : e.select raws = .ok g) : f.PolledAlike g := by
  obtain ⟨-, -, -, rfl⟩ := eq_of_select hf
  obtain ⟨-, -, -, rfl⟩ := eq_of_select hg
  exact { h with selection := rfl }

/-- A catalog leaves the same of both selections, or selects the same. -/
theorem selectionFrom (h : d.PolledAlike e) (keep : Bool) (streams : List StreamId) :
    (d.selectionFrom keep streams).map StreamId.full =
      (e.selectionFrom keep streams).map StreamId.full := by
  have hkept (ids : List StreamId) :
      (ids.filter fun id => streams.contains id).map StreamId.full =
        (ids.map StreamId.full).filter fun id => streams.contains id :=
    (filter_map_of (contains_full streams) ids).symm
  cases keep with
  | true => simp only [Dashboard.selectionFrom, if_true, hkept, h.selection]
  | false =>
    simp only [Dashboard.selectionFrom, Bool.false_eq_true, if_false, h.defaultSelection]

/-- The same answer is applied to both, or to neither. -/
theorem discovered (h : d.PolledAlike e) (base : String) (keep : Bool)
    (result : Except FetchFailure (List StreamId)) :
    (d.discovered base keep result = none ∧ e.discovered base keep result = none) ∨
      ∃ f g, d.discovered base keep result = some f ∧ e.discovered base keep result = some g ∧
        f.PolledAlike g ∧ f.catalog = g.catalog := by
  by_cases hbase : d.baseUrl = base
  · have hother : ¬e.baseUrl ≠ base := fun hne => hne (h.baseUrl.symm.trans hbase)
    have hhere : ¬d.baseUrl ≠ base := fun hne => hne hbase
    cases result with
    | ok streams =>
      right
      simp only [Dashboard.discovered, if_neg hhere, if_neg hother]
      exact ⟨_, _, rfl, rfl,
        { h with selection := h.selectionFrom keep streams, isLoaded := rfl }, rfl⟩
    | error failure =>
      simp only [Dashboard.discovered, if_neg hhere, if_neg hother, ← h.isLoaded]
      split
      · exact .inl ⟨rfl, rfl⟩
      · exact .inr ⟨_, _, rfl, rfl, { h with isLoaded := rfl }, rfl⟩
  · left
    exact ⟨discovered_of_ne hbase keep result,
      discovered_of_ne (fun hother => hbase (h.baseUrl.trans hother)) keep result⟩

end PolledAlike

/-- Whether there is a catalog, or something else has come to the page since the start. -/
def isStarted (d : Dashboard) : Bool := d.catalog.isLoaded || d.layoutVersion != 0

/-- Whether both catalogs have the same streams, in the same order, or there is none. -/
def SameCatalog (d e : Dashboard) : Prop :=
  d.catalog.streams?.map (List.map StreamId.full) = e.catalog.streams?.map (List.map StreamId.full)

theorem SameCatalog.same {d e : Dashboard} (h : d.catalog = e.catalog) : SameCatalog d e := by
  rw [SameCatalog, h]

theorem SameCatalog.of_eq {d e f g : Dashboard} (h : SameCatalog d e) (hf : f.catalog = d.catalog)
    (hg : g.catalog = e.catalog) : SameCatalog f g := by
  rw [SameCatalog, hf, hg]
  exact h

theorem catalog_of_select {d e : Dashboard} {raws : List String} (h : d.select raws = .ok e) :
    e.catalog = d.catalog := by
  obtain ⟨-, -, -, rfl⟩ := eq_of_select h
  rfl

theorem firstUnknown_of_map_full {streams others : List StreamId}
    (h : streams.map StreamId.full = others.map StreamId.full) (raws : List String) :
    firstUnknown streams raws = firstUnknown others raws := by
  have hcontains (id : StreamId) : streams.contains id = others.contains id := by
    rw [← contains_map_full streams, h, contains_map_full]
  simp only [firstUnknown, hcontains]

/-- From the same catalog the same can be selected. -/
theorem isOk_select_of_sameCatalog {d e : Dashboard} (h : SameCatalog d e) (raws : List String) :
    (d.select raws).isOk = (e.select raws).isOk := by
  unfold SameCatalog Catalog.streams? at h
  unfold Dashboard.select
  cases hd : d.catalog with
  | loaded streams =>
    cases he : e.catalog with
    | loaded others =>
      rw [hd, he] at h
      simp only [firstUnknown_of_map_full (Option.some.inj h)]
      cases firstUnknown others raws <;> rfl
    | _ =>
      rw [hd, he] at h
      cases h
  | _ =>
    cases he : e.catalog with
    | loaded others =>
      rw [hd, he] at h
      cases h
    | _ => rfl

end Dashboard

/-! ## Sessions that poll alike -/

deriving instance DecidableEq for Reply

/-- What is asked for by a discovery and what comes of it, whichever call waits for it. -/
def Discovery.content (d : Discovery) : String × Bool × Reply :=
  (d.baseUrl, d.keepSelection, d.reply)

/-- Whether the same is polled in two sessions, and the same is known of all streams. -/
structure Session.PolledAlike (s t : Session) : Prop where
  dashboard : s.dashboard.PolledAlike t.dashboard
  timeline : s.timeline.bare = t.timeline.bare

namespace Session.PolledAlike

variable {s t : Session}

theorem trans {u : Session} (h : s.PolledAlike t) (k : t.PolledAlike u) : s.PolledAlike u :=
  ⟨h.dashboard.trans k.dashboard, h.timeline.trans k.timeline⟩

theorem become (h : s.PolledAlike t) {d e : Dashboard} (hd : d.PolledAlike e)
    (invalidate : Bool) : (s.become d invalidate).PolledAlike (t.become e invalidate) :=
  ⟨hd, Timeline.apply_of_bare h.timeline (hd.full_update invalidate)⟩

theorem serve (h : s.PolledAlike t) (url : String) (a : Answer) :
    (s.serve url a).PolledAlike (t.serve url a) :=
  ⟨h.dashboard, congrArg (Timeline.serve url a) h.timeline⟩

theorem forget (h : s.PolledAlike t) : s.forget.PolledAlike t.forget :=
  ⟨h.dashboard, congrArg (fun t : Timeline => { t with stores := {} }) h.timeline⟩

theorem discover (h : s.PolledAlike t) (keep : Bool) :
    (s.discover keep).1.PolledAlike (t.discover keep).1 := ⟨h.dashboard, h.timeline⟩

/-- What both send is the same discovery. -/
theorem content_discover (h : s.PolledAlike t) (keep : Bool) :
    (s.discover keep).1.discoveries.getLast?.map Discovery.content =
      (t.discover keep).1.discoveries.getLast?.map Discovery.content := by
  have hreply (url : String) (timeout : Span) :
      s.timeline.ask url timeout = t.timeline.ask url timeout := by
    have hask := congrArg (fun t : Timeline => t.ask url timeout) h.timeline
    exact hask
  simp only [Session.discover, List.getLast?_concat, Option.map_some, Discovery.content, hreply,
    h.dashboard.baseUrl, h.dashboard.timeout]

theorem pass (h : s.PolledAlike t) :
    { s with timeline := { s.timeline with now := s.timeline.now + 1 } }.PolledAlike
      { t with timeline := { t.timeline with now := t.timeline.now + 1 } } :=
  ⟨h.dashboard, congrArg (fun t : Timeline => { t with now := t.now + 1 }) h.timeline⟩

theorem settle (h : s.PolledAlike t) :
    { s with timeline := s.timeline.settle }.PolledAlike
      { t with timeline := t.timeline.settle } :=
  ⟨h.dashboard, Timeline.settle_of_bare h.timeline⟩

/-- The same answer makes other dashboards of both, or of neither. -/
theorem answers_cases (h : s.PolledAlike t) {n m : Nat}
    (hsame : s.discoveries[n]?.map Discovery.content = t.discoveries[m]?.map Discovery.content) :
    ((Turn.answer n).dashboard? s = none ∧ (Turn.answer m).dashboard? t = none) ∨
      ∃ d e, (Turn.answer n).dashboard? s = some d ∧ (Turn.answer m).dashboard? t = some e ∧
        d.PolledAlike e ∧ d.catalog = e.catalog := by
  cases hs : s.discoveries[n]? with
  | none =>
    rw [hs, Option.map_none, eq_comm, Option.map_eq_none_iff] at hsame
    left
    simp only [Turn.dashboard?, hs, hsame, Option.bind_none, and_self]
  | some d =>
    rw [hs, Option.map_some, eq_comm, Option.map_eq_some_iff] at hsame
    obtain ⟨e, ht, hcontent⟩ := hsame
    obtain ⟨hbase, hkeep, hreply⟩ : e.baseUrl = d.baseUrl ∧ e.keepSelection = d.keepSelection ∧
        e.reply = d.reply := by simpa only [Discovery.content, Prod.mk.injEq] using hcontent
    rw [Turn.dashboard?_answer hs, Turn.dashboard?_answer ht, hbase, hkeep, hreply]
    exact h.dashboard.discovered d.baseUrl d.keepSelection (decodeStreams d.reply.outcome)

end Session.PolledAlike

namespace Run

/-! ## The same in both sessions -/

/-- Whether two sessions poll alike and, unless the catalog was renewed in the first one only, have
the same catalog. -/
structure Aligned (renewed : Bool) (s t : Session) : Prop extends s.PolledAlike t where
  catalog : renewed = false → s.dashboard.SameCatalog t.dashboard

/-- The operation that an action amounts to. -/
def Action.operation? : Action → Option Action
  | http r => ofRequest r
  | a => some a

theorem begin_operation (s : Session) (a : Action) :
    (begin s a).1 = a.operation?.elim s fun b => (begin s b).1 := by
  cases a with
  | http r =>
    rw [begin_http, Action.operation?]
    cases ofRequest r <;> rfl
  | _ => rfl

theorem Action.operation?_ne_http {a b : Action} (h : a.operation? = some b) (r : Http.Request) :
    b ≠ .http r := by
  cases a with
  | http q => exact ofRequest_ne_http h r
  | _ =>
    cases h
    exact nofun

/-- Whether the operation is not a select that is refused. -/
def Action.isAccepted (d : Dashboard) : Action → Bool
  | select raws => (d.select raws).isOk
  | _ => true

variable {config : AppConfig} {renewed : Bool} {s t : Session}

/-- What is selected is selected in both, or in neither. -/
theorem Aligned.select (h : Aligned renewed s t) (raws : List String)
    (hok : (s.dashboard.select raws).isOk = (t.dashboard.select raws).isOk) :
    Aligned renewed (begin s (.select raws)).1 (begin t (.select raws)).1 := by
  simp only [begin, Session.select]
  cases hs : s.dashboard.select raws with
  | ok d =>
    cases ht : t.dashboard.select raws with
    | ok e =>
      refine ⟨h.become (h.dashboard.select hs ht) false, fun hr => ?_⟩
      exact (h.catalog hr).of_eq (Dashboard.catalog_of_select hs) (Dashboard.catalog_of_select ht)
    | error failure =>
      rw [hs, ht] at hok
      cases hok
  | error failure =>
    cases ht : t.dashboard.select raws with
    | ok e =>
      rw [hs, ht] at hok
      cases hok
    | error other => exact h

/-- An operation that is accepted in both sessions or in neither leaves them aligned. -/
theorem Aligned.operation (h : Aligned renewed s t) (a : Action) (hhttp : ∀ r, a ≠ .http r)
    (haccept : renewed = true → a.isAccepted s.dashboard = a.isAccepted t.dashboard) :
    Aligned renewed (begin s a).1 (begin t a).1 := by
  cases a with
  | serve url x => exact ⟨h.serve url x, h.catalog⟩
  | mount => exact ⟨h.discover false, h.catalog⟩
  | rescan => exact ⟨h.discover true, h.catalog⟩
  | setBaseUrl text =>
    simp only [begin, Session.setBaseUrl]
    rcases h.dashboard.switch text with ⟨failure, hs, ht⟩ | ⟨d, e, hs, ht, hde, hcatalog⟩
    · rw [hs, ht]
      exact h
    · rw [hs, ht]
      exact ⟨(h.become hde true).forget.discover false, fun _ => .same (d := d) (e := e) hcatalog⟩
  | select raws =>
    refine h.select raws ?_
    cases renewed with
    | false => exact Dashboard.isOk_select_of_sameCatalog (h.catalog rfl) raws
    | true => exact haccept rfl
  | updateConfig patch =>
    exact ⟨h.become (h.dashboard.updateConfig patch) false, h.catalog⟩
  | http r => exact absurd rfl (hhttp r)
  | _ => exact h

theorem Aligned.begin (h : Aligned renewed s t) (a : Action)
    (haccept : renewed = true →
      (a.operation?.all fun b => b.isAccepted s.dashboard == b.isAccepted t.dashboard) = true) :
    Aligned renewed (begin s a).1 (begin t a).1 := by
  rw [begin_operation, begin_operation]
  cases ha : a.operation? with
  | none => exact h
  | some b =>
    refine h.operation b (Action.operation?_ne_http ha) fun hr => ?_
    have hb := haccept hr
    rw [ha, Option.all_some] at hb
    exact eq_of_beq hb

/-- An answer is applied in both sessions or in neither, and a catalog that is found is that of
both. -/
theorem Aligned.answers (h : Aligned renewed s t) {n m : Nat}
    (hsame : s.discoveries[n]?.map Discovery.content = t.discoveries[m]?.map Discovery.content) :
    Aligned (renewed && ((Turn.answer n).found? s).isNone) (Event.answered s n)
      (Event.answered t m) := by
  show Aligned _ ((Turn.answer n).next s) ((Turn.answer m).next t)
  rcases h.answers_cases hsame with ⟨hs, ht⟩ | ⟨d, e, hs, ht, hde, hcatalog⟩
  · obtain ⟨hsd, hst⟩ := Turn.next_answer_of_none hs
    obtain ⟨htd, htt⟩ := Turn.next_answer_of_none ht
    rw [Turn.unfound_of_dashboard? hs, Option.isNone_none, Bool.and_true]
    refine ⟨⟨?_, ?_⟩, fun hr => ?_⟩
    · rw [hsd, htd]
      exact h.dashboard
    · rw [hst, htt]
      exact h.timeline
    · exact (h.catalog hr).of_eq (congrArg Dashboard.catalog hsd) (congrArg Dashboard.catalog htd)
  · obtain ⟨hsd, hst⟩ := Turn.next_answer_of_some hs
    obtain ⟨htd, htt⟩ := Turn.next_answer_of_some ht
    refine ⟨⟨?_, ?_⟩, fun _ => .same ?_⟩
    · rw [hsd, htd]
      exact hde
    · rw [hst, htt]
      exact Timeline.apply_of_bare h.timeline (hde.full_update false)
    · rw [hsd, htd]
      exact hcatalog

end Run

end VideoWall
