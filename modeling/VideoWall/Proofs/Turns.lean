import VideoWall.Proofs.Histories

/-!
# Turns at the dashboard

Operations overlap: while one waits for a backend others go on.  What an operation does to the
dashboard it does in turns, in each of which it has the dashboard to itself.  A switch takes three of
them: it turns to the other address, it sends a discovery, and it has the answer applied.  Mounting
and rescanning take the last two.  The poller and the clock have turns of their own.

Turns of any operations may come in any order.

    a turn leaves dashboard and plan as they are, or it changes the dashboard in one of five ways
    and hands the plan of the new one to the poller                                 (next_cases)
    the events of a session are turns                                 (exists_turns_of_reaches)
-/

namespace VideoWall

/-! ## What can become of a dashboard -/

namespace Dashboard

/-- All that an operation can make of a dashboard. -/
inductive Change (d : Dashboard) : Dashboard → Prop where
  | switched (base : String) :
    d.Change
      { d with
        baseUrl := base, catalog := .pending, selection := []
        layoutVersion := d.layoutVersion + 1 }
  | selected (streams ids : List StreamId) (hloaded : d.catalog = .loaded streams)
    (hids : ∀ id ∈ ids, streams.contains id = true) :
    d.Change { d with selection := ids, layoutVersion := d.layoutVersion + 1 }
  | configured (p : ConfigPatch) : d.Change (d.updateConfig p)
  | found (streams ids : List StreamId) (hids : ∀ id ∈ ids, streams.contains id = true) :
    d.Change
      { d with
        selection := ids, catalog := .loaded streams
        layoutVersion := d.layoutVersion + 1 }
  | lost (message : String) :
    d.Change { d with catalog := .failed message, layoutVersion := d.layoutVersion + 1 }

theorem eq_of_switch {d e : Dashboard} {text : String} (h : d.switch text = .ok e) :
    baseOf text ≠ "" ∧
      e = { d with
        baseUrl := baseOf text, catalog := .pending, selection := []
        layoutVersion := d.layoutVersion + 1 } := by
  by_cases hb : baseOf text = ""
  · rw [switch, if_pos hb] at h
    exact nomatch h
  · rw [switch, if_neg hb] at h
    exact ⟨hb, (Except.ok.inj h).symm⟩

theorem eq_of_select {d e : Dashboard} {raws : List String} (h : d.select raws = .ok e) :
    ∃ streams, d.catalog = .loaded streams ∧ firstUnknown streams raws = none ∧
      e = { d with
        selection := StreamId.distinct (raws.map StreamId.parse)
        layoutVersion := d.layoutVersion + 1 } := by
  unfold select at h
  split at h
  · next streams hc =>
    split at h
    · cases h
    · next hknown => exact ⟨streams, hc, hknown, (Except.ok.inj h).symm⟩
  · cases h

theorem change_of_select {d e : Dashboard} {raws : List String} (h : d.select raws = .ok e) :
    d.Change e := by
  obtain ⟨streams, hc, hknown, rfl⟩ := eq_of_select h
  refine .selected streams _ hc fun id hid => ?_
  obtain ⟨raw, hraw, rfl⟩ := List.mem_map.1 (StreamId.mem_of_mem_distinctBy hid)
  simpa using List.find?_eq_none.1 hknown raw hraw

theorem contains_of_mem_selectionFrom {d : Dashboard} {keep : Bool} {streams : List StreamId}
    {id : StreamId} (h : id ∈ d.selectionFrom keep streams) : streams.contains id = true := by
  unfold selectionFrom at h
  split at h
  · exact (List.mem_filter.1 h).2
  · exact List.contains_iff_exists_mem_beq.2 ⟨id, List.mem_of_mem_take h, BEq.rfl⟩

/-- An answer is applied only at the address that it is from. -/
theorem eq_of_discovered {d e : Dashboard} {base : String} {keep : Bool}
    {result : Except FetchFailure (List StreamId)} (h : d.discovered base keep result = some e) :
    d.baseUrl = base ∧
      ((∃ streams, result = .ok streams ∧
          e = { d with
            selection := d.selectionFrom keep streams, catalog := .loaded streams
            layoutVersion := d.layoutVersion + 1 }) ∨
        ∃ failure, result = .error failure ∧ (keep && d.catalog.isLoaded) = false ∧
          e = { d with
            catalog := .failed (DashboardError.discovery (streamsUrl base) failure).message
            layoutVersion := d.layoutVersion + 1 }) := by
  unfold discovered at h
  split at h
  · cases h
  · next hbase =>
    refine ⟨Decidable.not_not.1 hbase, ?_⟩
    cases result with
    | ok streams => exact .inl ⟨streams, rfl, (Option.some.inj h).symm⟩
    | error failure =>
      cases hkept : keep && d.catalog.isLoaded with
      | true => simp [hkept] at h
      | false =>
        simp only [hkept, Bool.false_eq_true, if_false] at h
        exact .inr ⟨failure, rfl, rfl, (Option.some.inj h).symm⟩

theorem discovered_of_ne {d : Dashboard} {base : String} (h : d.baseUrl ≠ base) (keep : Bool)
    (result : Except FetchFailure (List StreamId)) : d.discovered base keep result = none :=
  if_pos h

/-- A failure to renew a loaded catalog is not applied. -/
theorem discovered_of_loaded {d : Dashboard} (h : d.catalog.isLoaded = true) (base : String)
    (failure : FetchFailure) : d.discovered base true (.error failure) = none := by
  simp [discovered, h]

theorem change_of_discovered {d e : Dashboard} {base : String} {keep : Bool}
    {result : Except FetchFailure (List StreamId)} (h : d.discovered base keep result = some e) :
    d.Change e := by
  obtain ⟨-, ⟨streams, -, rfl⟩ | ⟨failure, -, -, rfl⟩⟩ := eq_of_discovered h
  · exact .found streams _ fun id hid => contains_of_mem_selectionFrom hid
  · exact .lost _

end Dashboard

/-! ## Turns -/

inductive Turn where
  | serve (url : String) (answer : Answer)
  /-- The first turn of a switch: the other address, of which nothing is known yet. -/
  | switch (text : String)
  /-- A discovery is sent, to the address that is in force. -/
  | send (keep : Bool)
  /-- The answer to one of the discoveries under way is applied. -/
  | answer (n : Nat)
  | select (raws : List String)
  | configure (patch : ConfigPatch)
  /-- The poller turns to the latest plan. -/
  | adopt
  /-- The timer of the poller fires. -/
  | tick
  /-- The fetches end whose answers are due. -/
  | collect
  /-- A millisecond passes. -/
  | pass
  | prefer (call : Nat)

namespace Turn

def next (s : Session) : Turn → Session
  | serve url a => s.serve url a
  | switch text =>
    match s.dashboard.switch text with
    | .ok d => (s.become d true).forget
    | .error _ => s
  | send keep => (s.discover keep).1
  | answer n => Run.Event.answered s n
  | select raws => (s.select raws).toOption.getD s
  | configure patch => s.updateConfig patch
  | adopt => { s with timeline := s.timeline.adopt }
  | tick => { s with timeline := s.timeline.tick }
  | collect => { s with timeline := s.timeline.deliver }
  | pass => { s with timeline := { s.timeline with now := s.timeline.now + 1 } }
  | prefer call => s.prefer call

/-- The session after turns in any order. -/
def run (s : Session) (ts : List Turn) : Session := ts.foldl next s

/-- A session from its start. -/
def history (config : AppConfig) (start : Int) (ts : List Turn) : Session :=
  run (.new config start) ts

theorem run_append (s : Session) (ts us : List Turn) : run s (ts ++ us) = run (run s ts) us :=
  List.foldl_append

/-! ## What a turn does to the dashboard -/

/-- The dashboard that a turn makes, if it makes one: whatever is refused makes none, and neither
does an answer that changes nothing. -/
def dashboard? (s : Session) : Turn → Option Dashboard
  | switch text => (s.dashboard.switch text).toOption
  | answer n =>
    s.discoveries[n]?.bind fun d =>
      s.dashboard.discovered d.baseUrl d.keepSelection (decodeStreams d.reply.outcome)
  | select raws => (s.dashboard.select raws).toOption
  | configure patch => some (s.dashboard.updateConfig patch)
  | _ => none

/-- Whether the turn drops the fetches under way even if the targets stay as they are. -/
def invalidates : Turn → Bool
  | switch _ => true
  | _ => false

theorem eq_ok_of_toOption {ε α : Type} {x : Except ε α} {a : α} (h : x.toOption = some a) :
    x = .ok a := by
  cases x with
  | error e => cases h
  | ok b => rw [Option.some.inj h]

/-- The plan that a turn hands to the poller, if it hands one. -/
def update? (s : Session) (t : Turn) : Option PlanUpdate :=
  (t.dashboard? s).map (·.update t.invalidates)

theorem next_select (s : Session) (raws : List String) :
    (select raws).next s = match s.dashboard.select raws with
      | .ok d => s.become d false
      | .error _ => s := by
  simp only [next, Session.select]
  cases s.dashboard.select raws <;> rfl

theorem next_answer_none {s : Session} {n : Nat} (h : s.discoveries[n]? = none) :
    (answer n).next s = s := by
  simp only [next, Run.Event.answered, h]

theorem next_answer_some {s : Session} {n : Nat} {d : Discovery} (h : s.discoveries[n]? = some d) :
    (answer n).next s = { s with discoveries := s.discoveries.eraseIdx n }.finish d := by
  simp only [next, Run.Event.answered, h]

theorem dashboard?_answer {s : Session} {n : Nat} {d : Discovery} (h : s.discoveries[n]? = some d) :
    (answer n).dashboard? s =
      s.dashboard.discovered d.baseUrl d.keepSelection (decodeStreams d.reply.outcome) := by
  rw [dashboard?, h, Option.bind_some]

theorem dashboard_finish (s : Session) (d : Discovery) :
    (s.finish d).dashboard =
      (s.dashboard.discovered d.baseUrl d.keepSelection (decodeStreams d.reply.outcome)).getD
        s.dashboard := by
  simp only [Session.finish]
  cases s.dashboard.discovered d.baseUrl d.keepSelection (decodeStreams d.reply.outcome) <;> rfl

theorem timeline_finish (s : Session) (d : Discovery) :
    (s.finish d).timeline =
      match s.dashboard.discovered d.baseUrl d.keepSelection (decodeStreams d.reply.outcome) with
      | some e => s.timeline.apply (e.update false)
      | none => s.timeline := by
  simp only [Session.finish]
  cases s.dashboard.discovered d.baseUrl d.keepSelection (decodeStreams d.reply.outcome) <;> rfl

theorem dashboard_next (s : Session) (t : Turn) :
    (t.next s).dashboard = (t.dashboard? s).getD s.dashboard := by
  cases t with
  | switch text =>
    simp only [next, dashboard?]
    cases s.dashboard.switch text <;> rfl
  | answer n =>
    cases hd : s.discoveries[n]? with
    | none =>
      rw [next_answer_none hd]
      simp [dashboard?, hd]
    | some d =>
      rw [next_answer_some hd, dashboard_finish]
      simp [dashboard?, hd]
  | select raws =>
    rw [next_select]
    simp only [dashboard?]
    cases s.dashboard.select raws <;> rfl
  | _ => rfl

theorem plan_next (s : Session) (t : Turn) :
    (t.next s).timeline.poller.plan =
      match t.update? s with
      | some u => s.timeline.poller.plan.update u
      | none => s.timeline.poller.plan := by
  cases t with
  | switch text =>
    simp only [next, update?, dashboard?]
    cases s.dashboard.switch text <;> rfl
  | answer n =>
    cases hd : s.discoveries[n]? with
    | none =>
      rw [next_answer_none hd]
      simp [update?, dashboard?, hd]
    | some d =>
      rw [next_answer_some hd, timeline_finish]
      simp only [update?, dashboard?, hd, Option.bind_some]
      cases s.dashboard.discovered d.baseUrl d.keepSelection (decodeStreams d.reply.outcome) <;> rfl
  | select raws =>
    rw [next_select]
    simp only [update?, dashboard?]
    cases s.dashboard.select raws <;> rfl
  | adopt => exact s.timeline.poller.plan_adopt s.timeline.now
  | _ => rfl

theorem change_of_dashboard? {s : Session} {t : Turn} {d : Dashboard}
    (h : t.dashboard? s = some d) : s.dashboard.Change d := by
  cases t with
  | switch text =>
    simp only [dashboard?] at h
    obtain ⟨-, rfl⟩ := Dashboard.eq_of_switch (eq_ok_of_toOption h)
    exact .switched _
  | answer n =>
    simp only [dashboard?] at h
    obtain ⟨discovery, -, h⟩ := Option.bind_eq_some_iff.1 h
    exact Dashboard.change_of_discovered h
  | select raws =>
    simp only [dashboard?] at h
    exact Dashboard.change_of_select (eq_ok_of_toOption h)
  | configure patch =>
    cases h
    exact .configured patch
  | _ => cases h

/-- A turn leaves dashboard and plan as they are, or it changes the dashboard and hands the plan of
the new one to the poller. -/
theorem next_cases (s : Session) (t : Turn) :
    ((t.next s).dashboard = s.dashboard ∧ t.update? s = none ∧
        (t.next s).timeline.poller.plan = s.timeline.poller.plan) ∨
      ∃ u, s.dashboard.Change (t.next s).dashboard ∧ t.update? s = some u ∧
        u = (t.next s).dashboard.update u.invalidate ∧
        (t.next s).timeline.poller.plan = s.timeline.poller.plan.update u := by
  have hdash := dashboard_next s t
  have hplan := plan_next s t
  cases h : t.dashboard? s with
  | none =>
    have hnone : t.update? s = none := by rw [update?, h, Option.map_none]
    rw [h] at hdash
    rw [hnone] at hplan
    exact .inl ⟨hdash, hnone, hplan⟩
  | some d =>
    have hsome : t.update? s = some (d.update t.invalidates) := by rw [update?, h, Option.map_some]
    rw [h, Option.getD_some] at hdash
    rw [hsome] at hplan
    rw [hdash]
    exact .inr ⟨_, change_of_dashboard? h, hsome, rfl, hplan⟩

/-- What every change of the dashboard preserves is preserved by turns in any order. -/
theorem run_of_change {P : Dashboard → Prop} (hstep : ∀ {d e : Dashboard}, P d → d.Change e → P e)
    (s : Session) (ts : List Turn) (h : P s.dashboard) : P (run s ts).dashboard := by
  induction ts generalizing s with
  | nil => exact h
  | cons t ts ih =>
    refine ih (t.next s) ?_
    rcases next_cases s t with ⟨hsame, -, -⟩ | ⟨u, hchange, -⟩
    · rw [hsame]
      exact h
    · exact hstep h hchange

/-! ## The events of a session are turns -/

theorem next_setBaseUrl {s t : Session} {text : String} {call : Nat}
    (h : s.setBaseUrl text = .ok (t, call)) : run s [switch text, send false] = t := by
  unfold Session.setBaseUrl at h
  split at h
  · next d hd =>
    obtain ⟨rfl, -⟩ := Prod.mk.inj (Except.ok.inj h)
    simp only [run, List.foldl_cons, List.foldl_nil, next, hd]
    rfl
  · cases h

/-- An action that is no request is a list of turns. -/
theorem exists_turns_of_operation (s : Session) (a : Run.Action) (h : ∀ r, a ≠ .http r) :
    ∃ ts, (Run.begin s a).1 = run s ts := by
  cases a with
  | serve url answer => exact ⟨[serve url answer], rfl⟩
  | mount => exact ⟨[send false], rfl⟩
  | rescan => exact ⟨[send true], rfl⟩
  | setBaseUrl text =>
    simp only [Run.begin]
    cases hs : s.setBaseUrl text with
    | ok r => exact ⟨[switch text, send false], (next_setBaseUrl hs).symm⟩
    | error e => exact ⟨[], rfl⟩
  | select raws =>
    refine ⟨[select raws], ?_⟩
    simp only [Run.begin, run, List.foldl_cons, List.foldl_nil, next]
    cases s.select raws <;> rfl
  | updateConfig patch => exact ⟨[configure patch], rfl⟩
  | http r => exact absurd rfl (h r)
  | _ => exact ⟨[], rfl⟩

theorem exists_turns_of_settle (s : Session) :
    ∃ ts, { s with timeline := s.timeline.settle } = run s ts := by
  cases hdue : s.timeline.adopt.deliver.poller.isDue s.timeline.adopt.deliver.now with
  | true =>
    refine ⟨[adopt, collect, tick, collect], ?_⟩
    simp only [Timeline.settle, Timeline.tickIfDue, hdue, if_true, run, List.foldl_cons,
      List.foldl_nil, next]
  | false =>
    refine ⟨[adopt, collect, collect], ?_⟩
    simp only [Timeline.settle, Timeline.tickIfDue, hdue, Bool.false_eq_true, if_false, run,
      List.foldl_cons, List.foldl_nil, next]

theorem exists_turns_of_event (s : Session) (e : Run.Event) : ∃ ts, e.next s = run s ts := by
  cases e with
  | begin a =>
    show ∃ ts, (Run.begin s a).1 = run s ts
    cases a with
    | http r =>
      rw [Run.begin_http]
      cases hr : Run.ofRequest r with
      | none => exact ⟨[], rfl⟩
      | some a => exact exists_turns_of_operation s a (Run.ofRequest_ne_http hr)
    | _ => exact exists_turns_of_operation s _ (by simp)
  | answer n => exact ⟨[answer n], rfl⟩
  | poll => exact exists_turns_of_settle s
  | pass => exact ⟨[pass], rfl⟩
  | prefer call => exact ⟨[prefer call], rfl⟩

/-- Whatever happens to a session happens in turns. -/
theorem exists_turns_of_reaches {s t : Session} (h : Run.Reaches s t) : ∃ ts, t = run s ts := by
  obtain ⟨es, rfl⟩ := h
  induction es generalizing s with
  | nil => exact ⟨[], rfl⟩
  | cons e es ih =>
    obtain ⟨ts, hts⟩ := exists_turns_of_event s e
    obtain ⟨us, hus⟩ := ih (s := e.next s)
    refine ⟨ts ++ us, ?_⟩
    rw [run_append, ← hts]
    exact hus

end Turn

end VideoWall
