import VideoWall.Proofs.Timers

/-!
# Requests that change nothing

A request that only reads is answered at once, and so is one that is refused: for its path or its
method, for a body that is not what is wanted, for a stream that the catalog does not have, for an
address that is empty.  Both leave the session as it is.  All other requests are answered when they
have been carried out, be it well or not, and none of them is told then that it was at fault.  So a
run may be interspersed with such requests, and all else that is told in its course stays the same.

    a request does nothing, or it is carried out and not refused               (Http.route_cases)
    once more nothing is due after such a request                            (Run.passive_step)
    the reports of a run are the same beside such requests     (answers_beside_passive_requests)
-/

namespace VideoWall

namespace Http

/-- Whether a response says that the request is at fault. -/
def Response.isRefusal (r : Response) : Bool := 400 ≤ r.status && r.status < 500

/-- Whether a request only reads, or is refused. -/
def Request.isPassive (s : Session) (r : Request) : Bool :=
  r.method == "GET" ||
    match (handle s r).2 with
    | .answered response => response.isRefusal
    | .awaiting _ => false

/-- A route leaves the session as it is, or does what it is for: then it answers well, or when a
call has ended. -/
theorem act_cases (s : Session) (r : Request) (path : Route) :
    (∃ response, act s r path = (s, .answered response)) ∨
      (∃ t response, act s r path = (t, .answered response) ∧ response.status = 200) ∨
      ∃ t call, act s r path = (t, .awaiting call) := by
  cases path with
  | config =>
    simp only [act]
    cases readBody ConfigPatch.record r with
    | error response => exact .inl ⟨response, rfl⟩
    | ok patch => exact .inr (.inl ⟨_, _, rfl, rfl⟩)
  | baseUrl =>
    simp only [act]
    cases readBody BaseUrlRequest.record r with
    | error response => exact .inl ⟨response, rfl⟩
    | ok request =>
      simp only
      cases s.setBaseUrl request.baseUrl with
      | error e => exact .inl ⟨_, rfl⟩
      | ok started => exact .inr (.inr ⟨_, _, rfl⟩)
  | selection =>
    simp only [act]
    cases readBody SelectionRequest.record r with
    | error response => exact .inl ⟨response, rfl⟩
    | ok request =>
      simp only
      cases s.select request.streams with
      | error e => exact .inl ⟨_, rfl⟩
      | ok chosen => exact .inr (.inl ⟨_, _, rfl, rfl⟩)
  | rescan => exact .inr (.inr ⟨_, _, rfl⟩)
  | _ => exact .inl ⟨_, rfl⟩

/-- Only a request that posts something does more than to be answered at once. -/
theorem route_cases (s : Session) (r : Request) :
    (∃ response, route s r = (s, .answered response)) ∨
      r.method = "POST" ∧
        ((∃ t response, route s r = (t, .answered response) ∧ response.status = 200) ∨
          ∃ t call, route s r = (t, .awaiting call)) := by
  unfold route
  split
  · exact .inl ⟨_, rfl⟩
  · exact .inl ⟨_, rfl⟩
  · next path _ _ =>
    split
    · split
      · exact .inl ⟨_, rfl⟩
      · split <;> exact .inl ⟨_, rfl⟩
    · split
      · next hpost =>
        rcases act_cases s r path with hsame | hdone
        · exact .inl hsame
        · exact .inr ⟨hpost, hdone⟩
      · exact .inl ⟨_, rfl⟩

theorem handle_of_isPassive {s : Session} {r : Request} (h : r.isPassive s = true) :
    ∃ response, handle s r = (s, .answered response) := by
  rcases route_cases s r with ⟨response, hroute⟩ | ⟨hpost, ⟨t, response, hroute, hstatus⟩ |
    ⟨t, call, hroute⟩⟩
  · refine ⟨response.shared, ?_⟩
    simp only [handle, hroute]
  · have hgood : response.shared.isRefusal = false := by
      simp [Response.isRefusal, Response.shared, hstatus]
    simp [Request.isPassive, hpost, handle, hroute, hgood] at h
  · simp [Request.isPassive, hpost, handle, hroute] at h

end Http

namespace Turn

/-! ## Calls that have ended -/

theorem isGateway_of_verdict {d : Dashboard} {base : String}
    {result : Except FetchFailure (List StreamId)} {e : DashboardError}
    (h : d.verdict base result = .error e) : e.isGateway = true := by
  unfold Dashboard.verdict at h
  split at h
  · cases h
  · split at h
    · cases h
    · rw [← Except.error.inj h]
      rfl

/-- Whether a call has ended well, or through the fault of a backend. -/
def Unrefused (c : Completion) : Prop := ∀ e, c.result = .error e → e.isGateway = true

theorem completed_finish (s : Session) (d : Discovery) :
    ∃ c, (s.finish d).completed = c :: s.completed ∧ Unrefused c := by
  simp only [Session.finish]
  cases s.dashboard.discovered d.baseUrl d.keepSelection (decodeStreams d.reply.outcome) <;>
    cases hverdict : s.dashboard.verdict d.baseUrl (decodeStreams d.reply.outcome)
  case none.error | some.error =>
    refine ⟨_, rfl, fun e he => ?_⟩
    cases he
    exact isGateway_of_verdict hverdict
  case none.ok | some.ok =>
    refine ⟨_, rfl, fun e he => ?_⟩
    cases he

theorem completed_next (s : Session) (t : Turn) :
    (t.next s).completed = s.completed ∨
      ∃ c, (t.next s).completed = c :: s.completed ∧ Unrefused c := by
  cases t with
  | switch text =>
    left
    simp only [next]
    cases s.dashboard.switch text <;> rfl
  | answer n =>
    cases hd : s.discoveries[n]? with
    | none =>
      rw [next_answer_none hd]
      exact .inl rfl
    | some d =>
      rw [next_answer_some hd]
      exact .inr (completed_finish { s with discoveries := s.discoveries.eraseIdx n } d)
  | select raws =>
    left
    rw [next_select]
    cases s.dashboard.select raws <;> rfl
  | _ => exact .inl rfl

theorem unrefused_of_mem_completed {s : Session} (hs : ∀ c ∈ s.completed, Unrefused c)
    (ts : List Turn) : ∀ c ∈ (run s ts).completed, Unrefused c := by
  induction ts generalizing s with
  | nil => exact hs
  | cons t ts ih =>
    refine ih (s := t.next s) ?_
    rcases completed_next s t with hsame | ⟨c, hcons, hc⟩
    · rw [hsame]
      exact hs
    · rw [hcons]
      exact List.forall_mem_cons.2 ⟨hc, hs⟩

/-- A call that has ended is answered well, or the backend is blamed. -/
theorem status_of_mem_completed (config : AppConfig) (start : Int) (ts : List Turn) :
    ∀ c ∈ (history config start ts).completed,
      (Http.ofResult c.result).shared.status = 200 ∨
        (Http.ofResult c.result).shared.status = 502 := by
  intro c hc
  have hnone : ∀ c ∈ (Session.new config start).completed, Unrefused c := fun c hc => nomatch hc
  have hgateway : Unrefused c := unrefused_of_mem_completed hnone ts c hc
  cases hresult : c.result with
  | ok snapshot => exact .inl rfl
  | error e => exact .inr (if_pos (hgateway e hresult))

end Turn

namespace Run

/-! ## Runs -/

/-- What is told at each of some steps. -/
def reports (x : State) : List Step → List Report
  | [] => []
  | st :: steps => (step x st).2 :: reports (step x st).1 steps

theorem foldl_step (steps : List Step) (x : State) (told : List Report) :
    (steps.foldl (fun (acc : State × List Report) st =>
      ((step acc.1 st).1, (step acc.1 st).2 :: acc.2)) (x, told)).2.reverse =
      told.reverse ++ reports x steps := by
  induction steps generalizing x told with
  | nil => simp [reports]
  | cons st steps ih => simp [List.foldl_cons, ih, reports]

theorem run_eq_reports (config : AppConfig) (start : Int) (steps : List Step) :
    run config start steps = reports { session := .new config start } steps :=
  foldl_step steps _ []

/-- Whether nothing more is due between two steps, a timer that nothing waits for apart. -/
structure State.Still (x : State) : Prop where
  settle : x.session.settle.SameButTimer x.session
  waiting : ∀ w ∈ x.waiting, w.progress.ended? x.session = none

theorem still_new (config : AppConfig) (start : Int) :
    State.Still { session := .new config start } where
  settle := by
    have hidle : ({ start } : Timeline).SameButTimer ({ start } : Timeline).tickIfDue :=
      .tickIfDue_of_paused rfl
    have hadopt : ({ start } : Timeline).adopt = { start } := by
      simp [Timeline.adopt, Poller.adopt, Poller.restarts, Poller.cancels]
    have hsettle : ({ start } : Timeline).settle.SameButTimer { start } := by
      rw [Timeline.settle, hadopt]
      exact hidle.deliver.symm
    obtain ⟨q, hq, hsame⟩ := hsettle
    exact ⟨q, congrArg (Session.mk (.ofConfig config) · [] 0 []) hq, hsame⟩
  waiting := fun w hw => nomatch hw

theorem still_step (x : State) (st : Step) : (step x st).1.Still := by
  rw [step_eq]
  have hsettle : (st.after x.session).settle = st.after x.session := by
    unfold Step.after
    split <;> exact (Session.still_settle _).settle
  refine ⟨?_, fun w hw => ?_⟩
  · rw [hsettle]
    exact .refl _
  · exact Option.isNone_iff_eq_none.1 (List.mem_filter.1 hw).2

/-- Whether a step is a request that only reads, or is refused. -/
def Step.isPassive (s : Session) (st : Step) : Bool :=
  match st.action with
  | .http r => r.isPassive s
  | _ => false

theorem begin_of_isPassive {s : Session} {st : Step} (h : st.isPassive s = true) :
    ∃ outcome, begin s st.action = (s, .finished outcome) := by
  unfold Step.isPassive at h
  split at h
  · next r hr =>
    obtain ⟨response, hresponse⟩ := Http.handle_of_isPassive h
    refine ⟨.response response, ?_⟩
    simp only [hr, begin, hresponse]
  · cases h

/-- Once more nothing is due after such a step, and nothing was requested of the backend. -/
theorem passive_step {x : State} (hx : x.Still) {st : Step} (h : st.isPassive x.session = true) :
    (step x st).1.session.SameButTimer x.session ∧ (step x st).1.waiting = x.waiting ∧
      (step x st).2.requests = [] := by
  obtain ⟨outcome, hbegin⟩ := begin_of_isPassive h
  have hafter : st.after x.session = x.session.settle := by
    unfold Step.after
    rw [hbegin]
    split <;> rfl
  have hended := ended?_of_same hx.settle
  have hkept : x.waiting.filter (fun w => (w.progress.ended? x.session).isNone) = x.waiting :=
    List.filter_eq_self.2 fun w hw => Option.isNone_iff_eq_none.2 (hx.waiting w hw)
  have hlog : x.session.settle.timeline.log = x.session.timeline.log := hx.settle.log_eq.symm
  rw [step_eq, hafter]
  refine ⟨hx.settle, ?_, ?_⟩
  · show (st.pending x).filter _ = x.waiting
    rw [← hended]
    unfold Step.pending
    split
    · exact hkept
    · rw [hbegin]
      exact hkept
  · simp [requestsSince, hlog]

/-- Whether the steps that are marked are all such requests, each when its turn comes. -/
def marksPassive : State → List (Bool × Step) → Bool
  | _, [] => true
  | x, (marked, st) :: steps =>
    (!marked || st.isPassive x.session) && marksPassive (step x st).1 steps

theorem marksPassive_cons {x : State} {marked : Bool} {st : Step} {steps : List (Bool × Step)} :
    marksPassive x ((marked, st) :: steps) = true ↔
      (marked = true → st.isPassive x.session = true) ∧
        marksPassive (step x st).1 steps = true := by
  cases marked <;> simp [marksPassive]

/-- What is not marked. -/
def unmarked {α : Type} (l : List (Bool × α)) : List α := (l.filter (!·.1)).map (·.2)

/-- What is told at each of some steps, with the marks of these. -/
def markedReports (x : State) (steps : List (Bool × Step)) : List (Bool × Report) :=
  (steps.map (·.1)).zip (reports x (steps.map (·.2)))

theorem markedReports_cons (x : State) (marked : Bool) (st : Step) (steps : List (Bool × Step)) :
    markedReports x ((marked, st) :: steps) =
      (marked, (step x st).2) :: markedReports (step x st).1 steps := rfl

/-- One of two states that differ in a timer that nothing waits for goes on without the requests
that are marked. -/
theorem unmarked_reports {x y : State} (hx : x.Still) (h : x.session.SameButTimer y.session)
    (hw : x.waiting = y.waiting) (steps : List (Bool × Step))
    (hpassive : marksPassive x steps = true) :
    unmarked (markedReports x steps) = reports y (unmarked steps) := by
  induction steps generalizing x y with
  | nil => rfl
  | cons first steps ih =>
    obtain ⟨marked, st⟩ := first
    obtain ⟨hfirst, hrest⟩ := marksPassive_cons.1 hpassive
    rw [markedReports_cons]
    cases marked with
    | true =>
      obtain ⟨hsession, hwaiting, -⟩ := passive_step hx (hfirst rfl)
      exact ih (still_step x st) (hsession.trans h) (hwaiting.trans hw) hrest
    | false =>
      obtain ⟨hsession, hwaiting, hreport⟩ := same_report_step h hw st
      have hnext := ih (still_step x st) hsession hwaiting hrest
      calc unmarked ((false, (step x st).2) :: markedReports (step x st).1 steps)
          = (step x st).2 :: unmarked (markedReports (step x st).1 steps) := rfl
        _ = (step y st).2 :: reports (step y st).1 (unmarked steps) := by rw [hreport, hnext]
        _ = reports y (unmarked ((false, st) :: steps)) := rfl

theorem requests_of_marked {x : State} (hx : x.Still) (steps : List (Bool × Step))
    (hpassive : marksPassive x steps = true) :
    ∀ told ∈ markedReports x steps, told.1 = true → told.2.requests = [] := by
  induction steps generalizing x with
  | nil => exact fun told htold => nomatch htold
  | cons first steps ih =>
    obtain ⟨marked, st⟩ := first
    obtain ⟨hfirst, hrest⟩ := marksPassive_cons.1 hpassive
    rw [markedReports_cons]
    exact List.forall_mem_cons.2
      ⟨fun hmarked => (passive_step hx (hfirst hmarked)).2.2, ih (still_step x st) hrest⟩

/-- A request that only reads or is refused leaves everything as it is, in whatever state it comes.
A call that has ended is never refused.  So a run is told the same beside any requests that only
read or are refused, wherever they are inserted, and these send nothing to the backend. -/
theorem answers_beside_passive_requests (config : AppConfig) (start : Int) :
    (∀ (ts : List Turn) (r : Http.Request),
      let s := Turn.history config start ts
      (r.method = "GET" ∨ ∃ response, (Http.handle s r).2 = .answered response ∧
          400 ≤ response.status ∧ response.status < 500) →
        (Http.handle s r).1 = s) ∧
    (∀ ts : List Turn, ∀ c ∈ (Turn.history config start ts).completed,
      (Http.ofResult c.result).shared.status = 200 ∨
        (Http.ofResult c.result).shared.status = 502) ∧
    ∀ steps : List (Bool × Step), marksPassive { session := .new config start } steps = true →
      let told := (steps.map (·.1)).zip (run config start (steps.map (·.2)))
      unmarked told = run config start (unmarked steps) ∧
        ∀ p ∈ told, p.1 = true → p.2.requests = [] := by
  refine ⟨fun ts r hr => ?_, Turn.status_of_mem_completed config start, fun steps hsteps => ?_⟩
  · have hpassive : r.isPassive (Turn.history config start ts) = true := by
      rcases hr with hget | ⟨response, hanswered, hge, hlt⟩
      · simp [Http.Request.isPassive, hget]
      · simp [Http.Request.isPassive, hanswered, Http.Response.isRefusal, hge, hlt]
    obtain ⟨response, hresponse⟩ := Http.handle_of_isPassive hpassive
    rw [hresponse]
  · have hstill := still_new config start
    rw [run_eq_reports, run_eq_reports]
    exact ⟨unmarked_reports hstill (.refl _) rfl steps hsteps,
      requests_of_marked hstill steps hsteps⟩

/-- Requests that are refused for every reason there is, and one that only reads, before, during and
after a mount.  The selection in the end is accepted beside them. -/
theorem answers_beside_every_refusal :
    let request (method target body : String) : Step :=
      ⟨.http ⟨method, target, some "application/json", body.toUTF8.toList⟩, none⟩
    let untyped : Step := ⟨.http ⟨"POST", "/api/config", none, []⟩, some "untyped"⟩
    let found : Answer := { body := "[\"x\"]".toUTF8.toList, delay := 5 }
    let steps : List (Bool × Step) :=
      [(true, request "GET" "/api/panels" ""), (false, ⟨.serve "http://a/streams" found, none⟩),
        (true, request "POST" "/api/selection" "\x7b\"streams\":[\"x\"]\x7d"),
        (false, ⟨.mount, some "mount"⟩),
        (true, request "POST" "/api/base-url" "\x7b\"base_url\":\" \"\x7d"),
        (true, request "POST" "/api/config" "\x7b"), (true, untyped),
        (true, request "POST" "/api/config" "\x7b\"running\":1\x7d"),
        (false, ⟨.advance 10, none⟩),
        (true, request "POST" "/api/selection" "\x7b\"streams\":[\"x\",\"y\"]\x7d"),
        (true, request "DELETE" "/api/rescan" ""), (true, request "POST" "/api/scan" ""),
        (false, request "POST" "/api/selection" "\x7b\"streams\":[\"x\"]\x7d")]
    let status (report : Report) : Option Nat :=
      match report.outcome with
      | .response r => some r.status
      | _ => none
    let told := (steps.map (·.1)).zip (run { baseUrl := "http://a" } 0 (steps.map (·.2)))
    unmarked told = run { baseUrl := "http://a" } 0 (unmarked steps) ∧
      told.map (fun p => status p.2) =
        [some 200, none, some 400, none, some 400, some 400, none, some 422, none, some 400,
          some 405, some 404, some 200] := by
  intro request untyped found steps status told
  obtain ⟨-, -, hrun⟩ := answers_beside_passive_requests { baseUrl := "http://a" } 0
  have hsteps : marksPassive { session := .new { baseUrl := "http://a" } 0 } steps = true := by
    decide +kernel
  exact ⟨(hrun steps hsteps).1, by decide +kernel⟩

end Run

end VideoWall
