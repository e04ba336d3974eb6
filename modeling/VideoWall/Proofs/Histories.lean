import VideoWall.Proofs.Moments
import VideoWall.Run.Session

/-!
# Histories of a session

A session goes on in small events: an action begins, an answer to a discovery arrives, the poller
does what is due, a millisecond passes.  They may come in any order; the steps of a run are such
events (`reaches_steps`).  No event leaves the poller with a plan other than the dashboard's:
whenever the dashboard changes, the poller is given its plan (`pushes_next`).
-/

namespace VideoWall.Run

inductive Event where
  | begin (a : Action)
  /-- The answer to one of the discoveries under way arrives. -/
  | answer (n : Nat)
  /-- The poller does all that is due. -/
  | poll
  /-- A millisecond passes. -/
  | pass
  /-- The answer that a call waits for is put before all others. -/
  | prefer (call : Nat)

namespace Event

def answered (s : Session) (n : Nat) : Session :=
  match s.discoveries[n]? with
  | none => s
  | some d => { s with discoveries := s.discoveries.eraseIdx n }.finish d

def next (s : Session) : Event → Session
  | begin a => (Run.begin s a).1
  | answer n => answered s n
  | poll => { s with timeline := s.timeline.settle }
  | pass => { s with timeline := { s.timeline with now := s.timeline.now + 1 } }
  | prefer call => s.prefer call

end Event

/-- The session after events in any order. -/
def sessionAfter (config : AppConfig) (start : Int) (es : List Event) : Session :=
  es.foldl Event.next (.new config start)

/-! ## The steps of a run are events -/

/-- Whether events lead from one session to another. -/
def Reaches (s t : Session) : Prop := ∃ es : List Event, t = es.foldl Event.next s

namespace Reaches

theorem refl (s : Session) : Reaches s s := ⟨[], rfl⟩

theorem event (s : Session) (e : Event) : Reaches s (e.next s) := ⟨[e], rfl⟩

theorem trans {s t u : Session} (h : Reaches s t) (k : Reaches t u) : Reaches s u := by
  obtain ⟨es, rfl⟩ := h
  obtain ⟨fs, rfl⟩ := k
  exact ⟨es ++ fs, List.foldl_append.symm⟩

end Reaches

theorem finish_discoveries (s : Session) (ds : List Discovery) (d : Discovery) :
    { s with discoveries := ds }.finish d = { s.finish d with discoveries := ds } := by
  simp only [Session.finish]
  split <;> rfl

/-- Answers that are due arrive one after another. -/
theorem reaches_answers (p : Discovery → Bool) (l pre : List Discovery) (s : Session)
    (h : s.discoveries = pre ++ l) :
    Reaches s ((l.filter p).foldl Session.finish
      { s with discoveries := pre ++ l.filter fun d => !p d }) := by
  induction l generalizing pre s with
  | nil =>
    have hs : { s with discoveries := pre ++ [] } = s := by rw [← h]
    simp only [List.filter_nil, List.foldl_nil, hs]
    exact .refl s
  | cons d l ih =>
    cases hd : p d with
    | false =>
      have hpre := ih (pre ++ [d]) s (by simp [h])
      simpa [List.filter_cons, hd] using hpre
    | true =>
      have hget : s.discoveries[pre.length]? = some d := by simp [h]
      have herase : s.discoveries.eraseIdx pre.length = pre ++ l := by
        rw [h, List.eraseIdx_append_of_length_le (Nat.le_refl _)]
        simp
      have hanswer : Event.next s (.answer pre.length) =
          { s.finish d with discoveries := pre ++ l } := by
        simp only [Event.next, Event.answered, hget, herase, finish_discoveries]
      have hfirst := Reaches.event s (.answer pre.length)
      rw [hanswer] at hfirst
      have hrest := ih pre { s.finish d with discoveries := pre ++ l } rfl
      simpa [List.filter_cons, hd, finish_discoveries] using hfirst.trans hrest

theorem reaches_settle (s : Session) : Reaches s s.settle := by
  have hdeliver : Reaches s s.deliver :=
    reaches_answers (fun d => d.reply.due ≤ s.timeline.now) s.discoveries [] s rfl
  exact hdeliver.trans (.event _ .poll)

theorem reaches_elapse (ms : Nat) (s : Session) : Reaches s (s.elapse ms) := by
  induction ms generalizing s with
  | zero => exact .refl s
  | succ ms ih =>
    exact ((Reaches.event s .pass).trans (reaches_settle _)).trans (ih _)

theorem reaches_await (s : Session) (call : Nat) : Reaches s (s.await call) := by
  unfold Session.await
  split
  · exact reaches_settle s
  · exact ((Reaches.event s (.prefer call)).trans (reaches_settle _)).trans (reaches_elapse _ _)

theorem reaches_pass (s : Session) (p : Progress) : Reaches s (p.pass s) := by
  cases p with
  | finished outcome => exact .refl s
  | clock time => exact reaches_elapse _ s
  | call c form => exact reaches_await s c

/-- A step of a run is a history of events. -/
theorem reaches_step (state : State) (st : Step) :
    Reaches state.session (step state st).1.session := by
  have hbegin := Reaches.event state.session (.begin st.action)
  unfold step
  cases st.background with
  | none => exact (hbegin.trans (reaches_pass _ _)).trans (reaches_settle _)
  | some tag => exact hbegin.trans (reaches_settle _)

theorem reaches_steps (steps : List Step) (state : State) :
    Reaches state.session (steps.foldl (fun s st => (step s st).1) state).session := by
  induction steps generalizing state with
  | nil => exact .refl _
  | cons st steps ih => exact (reaches_step state st).trans (ih _)

/-! ## What a request amounts to -/

/-- The action that a request amounts to, if it is one that does something. -/
def ofRequest (r : Http.Request) : Option Action :=
  if r.method = "POST" then
    match Http.Route.ofPath r.path with
    | some .config => (Http.readBody ConfigPatch.record r).toOption.map .updateConfig
    | some .baseUrl =>
      (Http.readBody Http.BaseUrlRequest.record r).toOption.map fun b => .setBaseUrl b.baseUrl
    | some .selection =>
      (Http.readBody Http.SelectionRequest.record r).toOption.map fun b => .select b.streams
    | some .rescan => some .rescan
    | _ => none
  else none

/-- What an action waits for, whatever is told of it at the end. -/
def Progress.bare : Progress → Progress
  | finished _ => finished .nothing
  | clock time => clock time
  | call c _ => call c .plain

/-- The session when an action begins, and what the action waits for. -/
def begun (s : Session) (a : Action) : Session × Progress := ((begin s a).1, (begin s a).2.bare)

/-- What a request waits for. -/
def bareOf : Http.Handled → Progress
  | .answered _ => .finished .nothing
  | .awaiting call => .call call .plain

/-- A request begins as the action that it amounts to. -/
theorem begun_http (s : Session) (r : Http.Request) :
    begun s (.http r) = (ofRequest r).elim (s, .finished .nothing) (begun s) := by
  have hroute : begun s (.http r) = ((Http.route s r).1, bareOf (Http.route s r).2) := by
    simp only [begun, begin, Http.handle]
    rcases Http.route s r with ⟨t, response | call⟩ <;> rfl
  rw [hroute]
  by_cases hpost : r.method = "POST"
  · unfold Http.route ofRequest
    rw [hpost]
    cases hpath : Http.Route.ofPath r.path with
    | none => rfl
    | some route =>
      cases route with
      | page | style | view | panels | streams => rfl
      | rescan => rfl
      | config =>
        simp only [Http.show?, Http.act, if_true]
        cases Http.readBody ConfigPatch.record r <;> rfl
      | baseUrl =>
        simp only [Http.show?, Http.act, if_true]
        cases Http.readBody Http.BaseUrlRequest.record r with
        | error response => rfl
        | ok b =>
          simp only [Except.toOption, Option.map_some, Option.elim_some, begun, begin]
          cases s.setBaseUrl b.baseUrl <;> rfl
      | selection =>
        simp only [Http.show?, Http.act, if_true]
        cases Http.readBody Http.SelectionRequest.record r with
        | error response => rfl
        | ok b =>
          simp only [Except.toOption, Option.map_some, Option.elim_some, begun, begin]
          cases s.select b.streams <;> rfl
  · simp only [ofRequest, hpost, if_false]
    unfold Http.route
    split
    · rfl
    · rfl
    · split
      · split
        · rfl
        · split <;> rfl
      · simp [hpost, bareOf]

theorem begin_http (s : Session) (r : Http.Request) :
    (begin s (.http r)).1 = match ofRequest r with
      | some a => (begin s a).1
      | none => s := by
  have hbegun : (begin s (.http r)).1 = (begun s (.http r)).1 := rfl
  rw [hbegun, begun_http]
  cases ofRequest r <;> rfl

/-! ## The poller has the plan of the dashboard -/

/-- Whether the plan is what the update asks for. -/
structure Carries (p : Plan) (u : PlanUpdate) : Prop where
  running : p.running = u.running
  interval : p.interval = u.interval
  timeout : p.timeout = u.timeout
  targets : p.targets = u.targets

/-- Whether the poller has the plan of the dashboard, or none yet of one that has no catalog. -/
def InStep (s : Session) : Prop :=
  Carries s.timeline.poller.plan (s.dashboard.update false) ∨
    (s.timeline.poller.plan = {} ∧ s.dashboard.catalog.isLoaded = false)

/-- The dashboard stays as it is and so does the plan, or the poller is given the plan of the new
dashboard. -/
def Pushes (s t : Session) : Prop :=
  (t.dashboard = s.dashboard ∧ t.timeline.poller.plan = s.timeline.poller.plan) ∨
    ∃ invalidate, t.timeline.poller.plan =
      s.timeline.poller.plan.update (t.dashboard.update invalidate)

namespace Pushes

theorem same (s : Session) : Pushes s s := .inl ⟨rfl, rfl⟩

theorem become (s : Session) (d : Dashboard) (invalidate : Bool) :
    Pushes s (s.become d invalidate) := .inr ⟨invalidate, rfl⟩

theorem discover (s : Session) (keep : Bool) : Pushes s (s.discover keep).1 := .inl ⟨rfl, rfl⟩

/-- Switching backends pushes a plan, and what follows leaves it there. -/
theorem setBaseUrl {s t : Session} {text : String} {call : Nat}
    (h : s.setBaseUrl text = .ok (t, call)) : Pushes s t := by
  unfold Session.setBaseUrl at h
  split at h
  · next d hd =>
    obtain ⟨rfl, -⟩ := Prod.mk.inj (Except.ok.inj h)
    exact .inr ⟨true, rfl⟩
  · cases h

theorem select {s t : Session} {raws : List String} (h : s.select raws = .ok t) : Pushes s t := by
  unfold Session.select at h
  split at h
  · next d hd =>
    rw [← Except.ok.inj h]
    exact become s d false
  · cases h

theorem finish (s : Session) (d : Discovery) : Pushes s (s.finish d) := by
  simp only [Session.finish]
  split
  · next dashboard hd => exact become s dashboard false
  · exact same s

end Pushes

/-- An action that is no request pushes the plan of the dashboard it leaves. -/
theorem pushes_operation (s : Session) (a : Action) (h : ∀ r, a ≠ .http r) :
    Pushes s (begin s a).1 := by
  cases a with
  | serve url answer => exact .same s
  | advance ms => exact .same s
  | mount => exact .discover s false
  | rescan => exact .discover s true
  | setBaseUrl text =>
    simp only [begin]
    cases hs : s.setBaseUrl text with
    | ok r => exact .setBaseUrl hs
    | error e => exact .same s
  | select raws =>
    simp only [begin]
    cases hs : s.select raws with
    | ok t => exact .select hs
    | error e => exact .same s
  | updateConfig patch => exact .become s _ false
  | snapshot time => exact .same s
  | panels time => exact .same s
  | catalog => exact .same s
  | http r => exact absurd rfl (h r)

theorem ofRequest_ne_http {r : Http.Request} {a : Action} (h : ofRequest r = some a)
    (other : Http.Request) : a ≠ .http other := by
  rintro rfl
  unfold ofRequest at h
  split at h
  · split at h <;> simp [Option.map_eq_some_iff] at h
  · cases h

theorem pushes_next (s : Session) (e : Event) : Pushes s (e.next s) := by
  cases e with
  | begin a =>
    show Pushes s (Run.begin s a).1
    cases a with
    | http r =>
      rw [begin_http]
      cases hr : ofRequest r with
      | none => exact .same s
      | some a => exact pushes_operation s a (ofRequest_ne_http hr)
    | _ => exact pushes_operation s _ (by simp)
  | answer n =>
    show Pushes s (Event.answered s n)
    unfold Event.answered
    split
    · exact .same s
    · next d hd => exact Pushes.finish { s with discoveries := s.discoveries.eraseIdx n } d
  | poll => exact .inl ⟨rfl, s.timeline.plan_settle⟩
  | pass => exact .inl ⟨rfl, rfl⟩
  | prefer call => exact .inl ⟨rfl, rfl⟩

theorem InStep.pushes {s t : Session} (h : InStep s) (k : Pushes s t) : InStep t := by
  rcases k with ⟨hd, hp⟩ | ⟨invalidate, hp⟩
  · unfold InStep
    rw [hd, hp]
    exact h
  · left
    rw [hp]
    exact ⟨rfl, rfl, rfl, rfl⟩

/-- At every moment of a session the poller has the plan of the dashboard. -/
theorem inStep_sessionAfter (config : AppConfig) (start : Int) (es : List Event) :
    InStep (sessionAfter config start es) := by
  refine List.foldlRecOn es _ (.inr ⟨rfl, rfl⟩) fun s hs e _ => ?_
  exact hs.pushes (pushes_next s e)

end VideoWall.Run
