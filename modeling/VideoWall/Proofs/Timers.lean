import VideoWall.Proofs.Stillness

/-!
# A timer that nothing waits for

While the plan that is carried out does not run, the timer fires for nothing, and when polling is
resumed it is started anew.  So it makes no difference until then when it fires: two sessions that
differ in that alone go on alike, and the same is told of both at every step.

    pollers that differ in an idle timer turn to the same plan               (SameButTimer.adopt)
    sessions that differ in it report the same                               (same_report_step)
-/

namespace VideoWall

namespace Poller

/-- Whether two pollers differ at most in when the timer fires, and that only while the plan that is
carried out does not run. -/
structure SameButTimer (p q : Poller) : Prop where
  plan : p.plan = q.plan
  adopted : p.adopted = q.adopted
  inFlight : p.inFlight = q.inFlight
  isSome : p.ticker.isSome = q.ticker.isSome
  ticker : p.adopted.running = true → p.ticker = q.ticker

namespace SameButTimer

variable {p q r : Poller}

theorem refl (p : Poller) : p.SameButTimer p := ⟨rfl, rfl, rfl, rfl, fun _ => rfl⟩

theorem trans (h : p.SameButTimer q) (k : q.SameButTimer r) : p.SameButTimer r where
  plan := h.plan.trans k.plan
  adopted := h.adopted.trans k.adopted
  inFlight := h.inFlight.trans k.inFlight
  isSome := h.isSome.trans k.isSome
  ticker := fun hr => (h.ticker hr).trans (k.ticker (h.adopted ▸ hr))

theorem apply (h : p.SameButTimer q) (u : PlanUpdate) : (p.apply u).SameButTimer (q.apply u) :=
  { h with plan := congrArg (·.update u) h.plan }

theorem collect (h : p.SameButTimer q) (now : Nat) : (p.collect now).SameButTimer (q.collect now) :=
  { h with inFlight := by simp only [Poller.collect, h.inFlight] }

/-- A timer that goes on is that of a plan that ran before, or of one that still does not run. -/
theorem adopt (h : p.SameButTimer q) (now : Nat) : (p.adopt now).SameButTimer (q.adopt now) := by
  have hrestarts : p.restarts = q.restarts := by simp only [restarts, h.plan, h.adopted]
  have hcancels : p.cancels = q.cancels := by simp only [cancels, h.plan, h.adopted]
  cases hp : p.ticker with
  | none =>
    have hq : q.ticker = none := by simpa [hp] using h.isSome
    simpa only [Poller.adopt, hp, hq] using h
  | some ticker =>
    obtain ⟨other, hq⟩ : ∃ other, q.ticker = some other :=
      Option.isSome_iff_exists.1 (by simp [← h.isSome, hp])
    simp only [Poller.adopt, hp, hq, ← hrestarts, ← hcancels, ← h.plan, ← h.inFlight]
    cases hr : p.restarts with
    | true => exact .refl _
    | false =>
      refine ⟨rfl, rfl, rfl, rfl, fun hrunning => ?_⟩
      -- a plan that runs without a new timer ran before
      have hran : p.adopted.running = true := by
        simp only [restarts, Bool.or_eq_false_iff, Bool.and_eq_false_iff, Bool.not_eq_false'] at hr
        rcases hr.1.1 with hplan | hran
        · exact absurd (hrunning.symm.trans hplan) (by decide)
        · exact hran
      have hsame := h.ticker hran
      rw [hp, hq] at hsame
      simpa using hsame

theorem wanted (h : p.SameButTimer q) : p.wanted = q.wanted := by
  simp only [Poller.wanted, isBusy, h.adopted, h.inFlight]

theorem tick (h : p.SameButTimer q) (send : Target → Reply) (now : Nat) :
    (p.tick send now).SameButTimer (q.tick send now) where
  plan := h.plan
  adopted := h.adopted
  inFlight := by simp only [Poller.tick, started, h.wanted, h.adopted, h.inFlight]
  isSome := by simpa [Poller.tick] using h.isSome
  ticker := fun hr => congrArg (Option.map (Ticker.rearm now)) (h.ticker hr)

/-- A timer that nothing waits for fires without effect. -/
theorem tick_of_paused (h : p.adopted.running = false) (send : Target → Reply) (now : Nat) :
    p.SameButTimer (p.tick send now) where
  plan := rfl
  adopted := rfl
  inFlight := by
    simp only [Poller.tick, started, wanted_of_paused h, List.map_nil, List.append_nil]
  isSome := by simp [Poller.tick]
  ticker := fun hr => by
    rw [h] at hr
    cases hr

theorem symm (h : p.SameButTimer q) : q.SameButTimer p where
  plan := h.plan.symm
  adopted := h.adopted.symm
  inFlight := h.inFlight.symm
  isSome := h.isSome.symm
  ticker := fun hr => (h.ticker (h.adopted ▸ hr)).symm

end SameButTimer

end Poller

namespace Timeline

def withPoller (t : Timeline) (q : Poller) : Timeline := { t with poller := q }

/-- Whether two timelines differ at most in such a timer. -/
def SameButTimer (t u : Timeline) : Prop :=
  ∃ q, u = t.withPoller q ∧ t.poller.SameButTimer q

namespace SameButTimer

variable {t u v : Timeline}

theorem refl (t : Timeline) : t.SameButTimer t := ⟨t.poller, rfl, .refl _⟩

theorem trans (h : t.SameButTimer u) (k : u.SameButTimer v) : t.SameButTimer v := by
  obtain ⟨q, rfl, hq⟩ := h
  obtain ⟨r, rfl, hr⟩ := k
  exact ⟨r, rfl, hq.trans hr⟩

theorem symm (h : t.SameButTimer u) : u.SameButTimer t := by
  obtain ⟨q, rfl, hq⟩ := h
  exact ⟨t.poller, rfl, hq.symm⟩

theorem adopt (h : t.SameButTimer u) : t.adopt.SameButTimer u.adopt := by
  obtain ⟨q, rfl, hq⟩ := h
  exact ⟨q.adopt t.now, rfl, hq.adopt t.now⟩

theorem deliver (h : t.SameButTimer u) : t.deliver.SameButTimer u.deliver := by
  obtain ⟨q, rfl, hq⟩ := h
  refine ⟨q.collect t.now, ?_, hq.collect t.now⟩
  simp only [Timeline.deliver, withPoller, Poller.answered, Poller.isCurrent, hq.inFlight, hq.plan]
  rfl

theorem tick (h : t.SameButTimer u) : t.tick.SameButTimer u.tick := by
  obtain ⟨q, rfl, hq⟩ := h
  refine ⟨_, ?_, hq.tick _ t.now⟩
  simp only [Timeline.tick, withPoller, note, hq.wanted, hq.adopted]
  rfl

theorem tick_of_paused (h : t.poller.adopted.running = false) : t.SameButTimer t.tick := by
  refine ⟨t.tick.poller, ?_, .tick_of_paused h _ t.now⟩
  simp only [Timeline.tick, withPoller, note, Poller.wanted_of_paused h, List.map_nil,
    List.reverse_nil, List.nil_append]

theorem tickIfDue_of_paused (h : t.poller.adopted.running = false) :
    t.SameButTimer t.tickIfDue := by
  unfold Timeline.tickIfDue
  split
  · exact tick_of_paused h
  · exact .refl t

theorem tickIfDue (h : t.SameButTimer u) : t.tickIfDue.SameButTimer u.tickIfDue := by
  have hnow : t.now = u.now := by
    obtain ⟨q, rfl, -⟩ := h
    rfl
  have hadopted : t.poller.adopted = u.poller.adopted := by
    obtain ⟨q, rfl, hq⟩ := h
    exact hq.adopted
  cases hrunning : t.poller.adopted.running with
  | true =>
    have hdue : t.poller.isDue t.now = u.poller.isDue u.now := by
      obtain ⟨q, rfl, hq⟩ := h
      simp only [Poller.isDue, hq.ticker hrunning]
      rfl
    simp only [Timeline.tickIfDue, ← hdue]
    split
    · exact h.tick
    · exact h
  | false =>
    have hother : u.poller.adopted.running = false := hadopted ▸ hrunning
    exact ((tickIfDue_of_paused hrunning).symm.trans h).trans (tickIfDue_of_paused hother)

theorem settle (h : t.SameButTimer u) : t.settle.SameButTimer u.settle :=
  h.adopt.deliver.tickIfDue.deliver

end SameButTimer

end Timeline

namespace Session

def withPoller (s : Session) (q : Poller) : Session :=
  { s with timeline := s.timeline.withPoller q }

/-- Whether two sessions differ at most in such a timer. -/
def SameButTimer (s t : Session) : Prop :=
  ∃ q, t = s.withPoller q ∧ s.timeline.poller.SameButTimer q

namespace SameButTimer

variable {s t u : Session}

theorem refl (s : Session) : s.SameButTimer s := ⟨s.timeline.poller, rfl, .refl _⟩

theorem trans (h : s.SameButTimer t) (k : t.SameButTimer u) : s.SameButTimer u := by
  obtain ⟨q, rfl, hq⟩ := h
  obtain ⟨r, rfl, hr⟩ := k
  exact ⟨r, rfl, hq.trans hr⟩

theorem dashboard_eq (h : s.SameButTimer t) : t.dashboard = s.dashboard := by
  obtain ⟨q, rfl, -⟩ := h
  rfl

theorem now_eq (h : s.SameButTimer t) : t.timeline.now = s.timeline.now := by
  obtain ⟨q, rfl, -⟩ := h
  rfl

theorem log_eq (h : s.SameButTimer t) : t.timeline.log = s.timeline.log := by
  obtain ⟨q, rfl, -⟩ := h
  rfl

theorem become (h : s.SameButTimer t) (d : Dashboard) (invalidate : Bool) :
    (s.become d invalidate).SameButTimer (t.become d invalidate) := by
  obtain ⟨q, rfl, hq⟩ := h
  exact ⟨q.apply (d.update invalidate), rfl, hq.apply _⟩

theorem discover (h : s.SameButTimer t) (keep : Bool) :
    (s.discover keep).1.SameButTimer (t.discover keep).1 ∧
      (s.discover keep).2 = (t.discover keep).2 := by
  obtain ⟨q, rfl, hq⟩ := h
  exact ⟨⟨q, rfl, hq⟩, rfl⟩

theorem forget (h : s.SameButTimer t) : s.forget.SameButTimer t.forget := by
  obtain ⟨q, rfl, hq⟩ := h
  exact ⟨q, rfl, hq⟩

theorem updateConfig (h : s.SameButTimer t) (p : ConfigPatch) :
    (s.updateConfig p).SameButTimer (t.updateConfig p) := by
  rw [Session.updateConfig, Session.updateConfig, h.dashboard_eq]
  exact h.become _ false

/-- A selection is accepted in both, or refused in both for the same reason. -/
theorem select_cases (h : s.SameButTimer t) (raws : List String) :
    (∃ e, s.select raws = .error e ∧ t.select raws = .error e) ∨
      ∃ u v, s.select raws = .ok u ∧ t.select raws = .ok v ∧ u.SameButTimer v := by
  simp only [Session.select, h.dashboard_eq]
  cases s.dashboard.select raws with
  | error e => exact .inl ⟨e, rfl, rfl⟩
  | ok d => exact .inr ⟨_, _, rfl, rfl, h.become d false⟩

/-- So is a switch to another backend. -/
theorem setBaseUrl_cases (h : s.SameButTimer t) (text : String) :
    (∃ e, s.setBaseUrl text = .error e ∧ t.setBaseUrl text = .error e) ∨
      ∃ u v call, s.setBaseUrl text = .ok (u, call) ∧ t.setBaseUrl text = .ok (v, call) ∧
        u.SameButTimer v := by
  simp only [Session.setBaseUrl, h.dashboard_eq]
  cases s.dashboard.switch text with
  | error e => exact .inl ⟨e, rfl, rfl⟩
  | ok d =>
    obtain ⟨hsent, hcall⟩ := (h.become d true).forget.discover false
    exact .inr ⟨_, _, _, rfl, congrArg Except.ok (Prod.ext rfl hcall.symm), hsent⟩

theorem finish (h : s.SameButTimer t) (d : Discovery) :
    (s.finish d).SameButTimer (t.finish d) := by
  obtain ⟨q, rfl, hq⟩ := h
  have hsame : (s.withPoller q).dashboard = s.dashboard := rfl
  simp only [Session.finish, hsame]
  cases s.dashboard.discovered d.baseUrl d.keepSelection (decodeStreams d.reply.outcome) with
  | none => exact ⟨q, rfl, hq⟩
  | some e => exact ⟨q.apply (e.update false), rfl, hq.apply _⟩

theorem foldl_finish (h : s.SameButTimer t) (ds : List Discovery) :
    (ds.foldl Session.finish s).SameButTimer (ds.foldl Session.finish t) := by
  induction ds generalizing s t with
  | nil => exact h
  | cons d ds ih => exact ih (h.finish d)

theorem deliver (h : s.SameButTimer t) : s.deliver.SameButTimer t.deliver := by
  obtain ⟨q, rfl, hq⟩ := h
  refine foldl_finish ?_ _
  exact ⟨q, rfl, hq⟩

theorem timeline_settle (h : s.SameButTimer t) :
    { s with timeline := s.timeline.settle }.SameButTimer
      { t with timeline := t.timeline.settle } := by
  obtain ⟨q, rfl, hq⟩ := h
  obtain ⟨r, hr, hsame⟩ := Timeline.SameButTimer.settle (t := s.timeline) ⟨q, rfl, hq⟩
  refine ⟨r, ?_, hsame⟩
  simp only [withPoller, hr]

theorem settle (h : s.SameButTimer t) : s.settle.SameButTimer t.settle := h.deliver.timeline_settle

theorem pass (h : s.SameButTimer t) :
    { s with timeline := { s.timeline with now := s.timeline.now + 1 } }.SameButTimer
      { t with timeline := { t.timeline with now := t.timeline.now + 1 } } := by
  obtain ⟨q, rfl, hq⟩ := h
  exact ⟨q, rfl, hq⟩

theorem elapse (h : s.SameButTimer t) (ms : Nat) : (s.elapse ms).SameButTimer (t.elapse ms) := by
  induction ms generalizing s t with
  | zero => exact h
  | succ ms ih => exact ih h.pass.settle

theorem prefer (h : s.SameButTimer t) (call : Nat) :
    (s.prefer call).SameButTimer (t.prefer call) := by
  obtain ⟨q, rfl, hq⟩ := h
  exact ⟨q, rfl, hq⟩

theorem await (h : s.SameButTimer t) (call : Nat) : (s.await call).SameButTimer (t.await call) := by
  have hdue : t.due? call = s.due? call := by
    obtain ⟨q, rfl, -⟩ := h
    rfl
  simp only [Session.await, hdue, h.now_eq]
  cases s.due? call with
  | none => exact h.settle
  | some due => exact (h.prefer call).settle.elapse _

end SameButTimer

end Session

namespace Http

variable {s t : Session}

theorem same_act (h : s.SameButTimer t) (r : Request) (path : Route) :
    (act s r path).1.SameButTimer (act t r path).1 ∧ (act s r path).2 = (act t r path).2 := by
  cases path with
  | config =>
    simp only [act]
    cases readBody ConfigPatch.record r with
    | error response => exact ⟨h, rfl⟩
    | ok patch =>
      refine ⟨h.updateConfig patch, ?_⟩
      obtain ⟨q, rfl, -⟩ := h
      rfl
  | baseUrl =>
    simp only [act]
    cases readBody BaseUrlRequest.record r with
    | error response => exact ⟨h, rfl⟩
    | ok request =>
      rcases h.setBaseUrl_cases request.baseUrl with ⟨e, hs, ht⟩ | ⟨u, v, call, hs, ht, huv⟩ <;>
        simp only [hs, ht, and_true]
      · exact h
      · exact huv
  | selection =>
    simp only [act]
    cases readBody SelectionRequest.record r with
    | error response => exact ⟨h, rfl⟩
    | ok request =>
      rcases h.select_cases request.streams with ⟨e, hs, ht⟩ | ⟨u, v, hs, ht, huv⟩
      · simp only [hs, ht, and_true]
        exact h
      · simp only [hs, ht]
        refine ⟨huv, ?_⟩
        obtain ⟨q, rfl, -⟩ := huv
        rfl
  | rescan =>
    obtain ⟨hsent, hcall⟩ := h.discover true
    exact ⟨hsent, congrArg Handled.awaiting hcall⟩
  | _ => exact ⟨h, rfl⟩

theorem same_route (h : s.SameButTimer t) (r : Request) :
    (route s r).1.SameButTimer (route t r).1 ∧ (route s r).2 = (route t r).2 := by
  have hshow (path : Route) : show? t path = show? s path := by
    obtain ⟨q, rfl, -⟩ := h
    cases path <;> rfl
  unfold route
  split
  · exact ⟨h, rfl⟩
  · exact ⟨h, rfl⟩
  · next path _ _ =>
    rw [hshow]
    split
    · split
      · exact ⟨h, rfl⟩
      · split <;> exact ⟨h, rfl⟩
    · split
      · exact same_act h r path
      · exact ⟨h, rfl⟩

theorem same_handle (h : s.SameButTimer t) (r : Request) :
    (handle s r).1.SameButTimer (handle t r).1 ∧ (handle s r).2 = (handle t r).2 := by
  obtain ⟨hsession, hhandled⟩ := same_route h r
  unfold handle
  rcases hs : route s r with ⟨u, response | call⟩ <;>
    rcases ht : route t r with ⟨v, other | called⟩ <;>
    rw [hs, ht] at hsession hhandled <;> cases hhandled
  · exact ⟨hsession, rfl⟩
  · exact ⟨hsession, rfl⟩

end Http

namespace Run

variable {s t : Session}

/-- The same action begins in both, and waits for the same. -/
theorem same_begin (h : s.SameButTimer t) (a : Action) :
    (begin s a).1.SameButTimer (begin t a).1 ∧ (begin s a).2 = (begin t a).2 := by
  cases a with
  | mount =>
    obtain ⟨hsent, hcall⟩ := h.discover false
    exact ⟨hsent, congrArg (Progress.call · .plain) hcall⟩
  | rescan =>
    obtain ⟨hsent, hcall⟩ := h.discover true
    exact ⟨hsent, congrArg (Progress.call · .plain) hcall⟩
  | setBaseUrl text =>
    simp only [begin]
    rcases h.setBaseUrl_cases text with ⟨e, hs, ht⟩ | ⟨u, v, call, hs, ht, huv⟩ <;>
      simp only [hs, ht, and_true]
    · exact h
    · exact huv
  | select raws =>
    simp only [begin]
    rcases h.select_cases raws with ⟨e, hs, ht⟩ | ⟨u, v, hs, ht, huv⟩ <;>
      simp only [hs, ht, and_true]
    · exact h
    · exact huv
  | updateConfig patch =>
    refine ⟨h.updateConfig patch, ?_⟩
    obtain ⟨q, rfl, -⟩ := h
    rfl
  | http r =>
    obtain ⟨hsession, hhandled⟩ := Http.same_handle h r
    simp only [begin]
    rcases hs : Http.handle s r with ⟨u, response | call⟩ <;>
      rcases ht : Http.handle t r with ⟨v, other | called⟩ <;>
      rw [hs, ht] at hsession hhandled <;> cases hhandled
    · exact ⟨hsession, rfl⟩
    · exact ⟨hsession, rfl⟩
  | _ =>
    obtain ⟨q, rfl, hq⟩ := h
    exact ⟨⟨q, rfl, hq⟩, rfl⟩

theorem same_pass (h : s.SameButTimer t) (p : Progress) : (p.pass s).SameButTimer (p.pass t) := by
  cases p with
  | finished outcome => exact h
  | clock time =>
    simp only [Progress.pass, h.now_eq]
    exact h.elapse _
  | call c form => exact h.await c

theorem ended?_of_same (h : s.SameButTimer t) : Progress.ended? t = Progress.ended? s := by
  obtain ⟨q, rfl, -⟩ := h
  funext p
  cases p <;> rfl

/-- The session when a step has been taken. -/
def Step.after (s : Session) (st : Step) : Session :=
  match st.background with
  | none => ((begin s st.action).2.pass (begin s st.action).1).settle
  | some _ => (begin s st.action).1.settle

/-- What is waited for in the background during a step. -/
def Step.pending (x : State) (st : Step) : List Waiting :=
  match st.background with
  | none => x.waiting
  | some tag => ⟨tag, (begin x.session st.action).2⟩ :: x.waiting

/-- What has come of a step that is waited for. -/
def Step.outcome (s : Session) (st : Step) : Outcome :=
  match st.background with
  | none => (((begin s st.action).2.ended? (st.after s)).map (·.2)).getD .nothing
  | some _ => .nothing

theorem step_eq (x : State) (st : Step) :
    let s := st.after x.session
    step x st =
      ({ session := s
         waiting := (st.pending x).filter fun w => (w.progress.ended? s).isNone },
        { time := s.timeline.now
          outcome := st.outcome x.session
          requests := requestsSince s.timeline.log x.session.timeline.log.length
          finished := sortFinished ((st.pending x).filterMap (·.finished? s)) }) := by
  unfold step Step.outcome Step.pending Step.after
  cases st.background <;> rfl

/-- The same is told of both at every step, and the same is waited for. -/
theorem same_report_step {x y : State} (h : x.session.SameButTimer y.session)
    (hw : x.waiting = y.waiting) (st : Step) :
    (step x st).1.session.SameButTimer (step y st).1.session ∧
      (step x st).1.waiting = (step y st).1.waiting ∧ (step x st).2 = (step y st).2 := by
  obtain ⟨hbegun, hprogress⟩ := same_begin h st.action
  have hafter : (st.after x.session).SameButTimer (st.after y.session) := by
    unfold Step.after
    split
    · rw [hprogress]
      exact (same_pass hbegun _).settle
    · exact hbegun.settle
  have hended := ended?_of_same hafter
  have hpending : st.pending x = st.pending y := by
    unfold Step.pending
    rw [hprogress, hw]
  have houtcome : st.outcome x.session = st.outcome y.session := by
    unfold Step.outcome
    rw [hprogress, hended]
  rw [step_eq, step_eq, ← hpending, ← houtcome]
  refine ⟨hafter, ?_, ?_⟩
  · simp only [hended]
  · simp only [Waiting.finished?, hended, hafter.now_eq, hafter.log_eq, h.log_eq]

end Run

end VideoWall
