import VideoWall.Proofs.Histories

/-!
# What is requested of the backend

The list of streams is requested once for each mount, each rescan and each switch that is not
refused, and at no other time.  Whatever else is requested is the metadata of a selected stream,
while its catalog is loaded and polling runs (`requests_of_event`).
-/

namespace VideoWall

theorem Dashboard.mem_targets {d : Dashboard} {t : Target} (h : t ∈ d.targets) :
    d.catalog.isLoaded = true ∧ ∃ id ∈ d.selection, t.metaUrl = (compose d.baseUrl id).metaUrl := by
  unfold targets at h
  split at h
  · next streams hc =>
    obtain ⟨id, hid, rfl⟩ := List.mem_map.1 h
    exact ⟨by rw [hc]; rfl, id, hid, rfl⟩
  · cases h

namespace Run

/-- Whether an action that is no request reads the catalog of a backend. -/
def Action.reads : Action → Bool
  | mount => true
  | rescan => true
  | setBaseUrl text => Dashboard.baseOf text != ""
  | _ => false

/-- Whether an action reads the catalog of a backend. -/
def Action.discovers : Action → Bool
  | http r => (ofRequest r).any Action.reads
  | a => a.reads

theorem log_setBaseUrl {s t : Session} {text : String} {call : Nat}
    (h : s.setBaseUrl text = .ok (t, call)) :
    t.timeline.log = [⟨s.timeline.now, streamsUrl t.dashboard.baseUrl⟩] ++ s.timeline.log := by
  unfold Session.setBaseUrl at h
  split at h
  · obtain ⟨rfl, -⟩ := Prod.mk.inj (Except.ok.inj h)
    rfl
  · cases h

theorem isOk_setBaseUrl (s : Session) (text : String) :
    (s.setBaseUrl text).isOk = (Dashboard.baseOf text != "") := by
  unfold Session.setBaseUrl Dashboard.switch
  by_cases h : Dashboard.baseOf text = "" <;> simp [h, Except.isOk, Except.toBool]

theorem log_select {s t : Session} {raws : List String} (h : s.select raws = .ok t) :
    t.timeline.log = s.timeline.log := by
  unfold Session.select at h
  split at h
  · rw [← Except.ok.inj h]
    rfl
  · cases h

theorem log_finish (s : Session) (d : Discovery) : (s.finish d).timeline.log = s.timeline.log := by
  simp only [Session.finish]
  split <;> rfl

/-- An action that is no request sends one request if it reads the catalog, and none otherwise. -/
theorem log_operation (s : Session) (a : Action) (h : ∀ r, a ≠ .http r) :
    (begin s a).1.timeline.log =
      (if a.reads then [⟨s.timeline.now, streamsUrl (begin s a).1.dashboard.baseUrl⟩] else []) ++
        s.timeline.log := by
  cases a with
  | setBaseUrl text =>
    have hok := isOk_setBaseUrl s text
    simp only [begin, Action.reads, ← hok]
    cases hs : s.setBaseUrl text with
    | ok r => exact log_setBaseUrl hs
    | error e => rfl
  | select raws =>
    simp only [begin, Action.reads]
    cases hs : s.select raws with
    | ok t => exact log_select hs
    | error e => rfl
  | http r => exact absurd rfl (h r)
  | _ => rfl

theorem log_begin (s : Session) (a : Action) :
    (begin s a).1.timeline.log =
      (if a.discovers then [⟨s.timeline.now, streamsUrl (begin s a).1.dashboard.baseUrl⟩]
        else []) ++ s.timeline.log := by
  cases a with
  | http r =>
    rw [begin_http]
    cases hr : ofRequest r with
    | none => simp [Action.discovers, hr]
    | some a => simpa [Action.discovers, hr] using log_operation s a (ofRequest_ne_http hr)
  | _ => exact log_operation s _ (by simp)

/-- Beginning an action requests the list of streams of the backend in force if the action is a
mount, a rescan or a switch that is not refused, and nothing otherwise.  Besides, only the poller
sends requests: for the metadata of selected streams of that backend, while the catalog is loaded
and polling runs.  No such request is for the list of streams, and none at all is for a picture. -/
theorem requests_of_event (config : AppConfig) (start : Int) (es : List Event) (e : Event) :
    let s := sessionAfter config start es
    let t := e.next s
    let base := t.dashboard.baseUrl
    ∃ sent : List Request, t.timeline.log = sent ++ s.timeline.log ∧
      (match e with
        | .begin a =>
          sent = if a.discovers then [⟨s.timeline.now, streamsUrl base⟩] else []
        | .poll =>
          ∀ r ∈ sent, r.time = s.timeline.now ∧ t.dashboard.catalog.isLoaded = true ∧
            t.dashboard.config.running = true ∧
            (∃ id ∈ t.dashboard.selection, r.url = (compose base id).metaUrl) ∧
            r.url ≠ streamsUrl base
        | _ => sent = []) ∧
      ∀ r ∈ sent, ∀ id, r.url ≠ (compose base id).videoUrl := by
  intro s t base
  have hs : InStep s := inStep_sessionAfter config start es
  cases e with
  | begin a =>
    refine ⟨_, log_begin s a, rfl, fun r hr id => ?_⟩
    split at hr
    · rw [List.mem_singleton.1 hr]
      exact streamsUrl_ne_videoUrl base id
    · cases hr
  | answer n =>
    refine ⟨[], ?_, rfl, by simp⟩
    show (Event.answered s n).timeline.log = s.timeline.log
    unfold Event.answered
    split
    · rfl
    · exact log_finish _ _
  | poll =>
    obtain ⟨sent, hlog, hsent⟩ := s.timeline.log_settle
    have hpoll : ∀ r ∈ sent, r.time = s.timeline.now ∧ s.dashboard.catalog.isLoaded = true ∧
        s.dashboard.config.running = true ∧
        ∃ id ∈ s.dashboard.selection, r.url = (compose s.dashboard.baseUrl id).metaUrl := by
      intro r hr
      obtain ⟨htime, hrunning, target, htarget, hurl⟩ := hsent r hr
      rcases hs with hc | ⟨hp, -⟩
      · have hmem : target ∈ s.dashboard.targets := by rw [hc.targets] at htarget; exact htarget
        obtain ⟨hloaded, id, hid, hmeta⟩ := Dashboard.mem_targets hmem
        exact ⟨htime, hloaded, hc.running.symm.trans hrunning, id, hid, hurl.trans hmeta⟩
      · rw [hp] at htarget
        cases htarget
    refine ⟨sent, hlog, fun r hr => ?_, fun r hr id => ?_⟩
    · obtain ⟨htime, hloaded, hrunning, id, hid, hurl⟩ := hpoll r hr
      refine ⟨htime, hloaded, hrunning, ⟨id, hid, hurl⟩, ?_⟩
      rw [hurl]
      exact metaUrl_ne_streamsUrl base id
    · obtain ⟨-, -, -, other, -, hurl⟩ := hpoll r hr
      rw [hurl]
      exact metaUrl_ne_videoUrl base other id
  | pass => exact ⟨[], rfl, rfl, by simp⟩
  | prefer call => exact ⟨[], rfl, rfl, by simp⟩

end Run

end VideoWall
