import VideoWall.Proofs.Pace
import VideoWall.Proofs.Stillness

/-!
# The cadence of polling

A plan that is turned to starts the timer anew, and from then on the timer fires once a period.  At
each tick every stream is polled that is not under way, and every poll ends by its timeout.  So
every stream keeps its pace as long as the plan stays.

    an answer or a failure arrives by the timeout                                     (due_reply)
    a tick fetches a stream that is not under way, once                     (wanted_of_stream)
    a fetch goes to the first target of its stream, and ends as it is answered        (directs)
    the next poll is at the first tick that is not before the end of the last   (polls_of_adopted)
-/

namespace VideoWall

/-- Whatever comes of a request comes by its timeout. -/
theorem due_reply (a : Answer) (sent : Nat) (timeout : Span) :
    sent ≤ (a.reply sent timeout).due ∧
      (a.reply sent timeout).due ≤ sent + timeout.ceilMillis := by
  unfold Answer.reply
  dsimp only
  split
  · exact ⟨Nat.le_add_right _ _, Nat.le_refl _⟩
  · split
    · dsimp only
      omega
    · split
      · dsimp only
        omega
      · split
        · exact ⟨Nat.le_add_right _ _, Nat.le_refl _⟩
        · dsimp only
          omega

/-! ## What a tick does for one stream -/

theorem StreamId.distinctBy_of_beq {α : Type} {stream : α → StreamId} {id : StreamId} {l : List α}
    (h : ∀ a ∈ l, (stream a == id) = true) : distinctBy stream l = l.head?.toList := by
  cases l with
  | nil => rfl
  | cons a l =>
    have hdrop : (distinctBy stream l).filter (fun b => !(stream b == stream a)) = [] := by
      refine List.filter_eq_nil_iff.2 fun b hb => ?_
      have hb := h b (List.mem_cons_of_mem a (mem_of_mem_distinctBy hb))
      simp [BEq.trans hb (BEq.symm (h a List.mem_cons_self))]
    rw [distinctBy, hdrop]
    rfl

namespace Poller

theorem isBusy_congr (p : Poller) {a b : StreamId} (h : (a == b) = true) :
    p.isBusy a = p.isBusy b := by
  unfold isBusy
  simp only [BEq.congr_right h]

theorem isBusy_eq_any (p : Poller) (id : StreamId) :
    p.isBusy id = (p.inFlight.filter (·.target.stream == id)).any fun _ => true := by
  simp [isBusy, List.any_filter]

/-- A stream that is to be polled is wanted at its first target, unless it is under way. -/
theorem wanted_of_stream {p : Poller} (hr : p.adopted.running = true) (id : StreamId) :
    p.wanted.filter (·.stream == id) =
      if p.isBusy id then [] else (p.adopted.targets.find? (·.stream == id)).toList := by
  have hfree : (p.adopted.targets.filter fun t => !p.isBusy t.stream).filter (·.stream == id) =
      (p.adopted.targets.filter (·.stream == id)).filter fun _ => !p.isBusy id := by
    simp only [List.filter_filter]
    refine List.filter_congr fun t _ => ?_
    cases ht : t.stream == id with
    | false => simp
    | true => simp [p.isBusy_congr ht]
  rw [wanted, if_pos hr, ← StreamId.distinctBy_filter fun _ _ _ _ h => BEq.congr_left h, hfree]
  cases p.isBusy id with
  | true => simp [StreamId.distinctBy]
  | false =>
    simp only [Bool.not_false, List.filter_true, Bool.false_eq_true, if_false, ← List.head?_filter]
    exact StreamId.distinctBy_of_beq fun t ht => (List.mem_filter.1 ht).2

/-- A target that is wanted is the first one of its stream. -/
theorem find?_of_mem_wanted {p : Poller} {target : Target} (h : target ∈ p.wanted) :
    p.adopted.targets.find? (·.stream == target.stream) = some target := by
  have hr : p.adopted.running = true := by
    unfold wanted at h
    split at h
    · assumption
    · cases h
  have hmem : target ∈ p.wanted.filter (·.stream == target.stream) :=
    List.mem_filter.2 ⟨h, BEq.rfl⟩
  rw [wanted_of_stream hr] at hmem
  split at hmem
  · cases hmem
  · exact Option.mem_toList.1 hmem

/-- A plan that resumes polling or is of a new generation starts the timer anew, with nothing under
way. -/
theorem adopt_of_new {p : Poller} (hp : p.Consistent) (halive : p.ticker.isSome = true)
    (hr : p.plan.running = true) (hperiod : 0 < p.plan.interval.ceilMillis)
    (hnew : p.adopted.running = false ∨ p.plan.generation ≠ p.adopted.generation) (now : Nat) :
    p.adopt now =
      { plan := p.plan, adopted := p.plan
        ticker := some ⟨p.plan.interval.ceilMillis, now, hperiod⟩, inFlight := [] } := by
  have hrestarts : p.restarts = true := by
    rcases hnew with h | h <;> simp [restarts, h, hr]
  have hnone : (if p.cancels then [] else p.inFlight) = [] := by
    rcases hnew with h | h
    · have hidle : p.inFlight = [] := List.eq_nil_iff_forall_not_mem.2 fun f hf => by
        have hrunning := (hp.wanted f hf).2.1
        rw [h] at hrunning
        cases hrunning
      simp [hidle]
    · simp [cancels, h]
  obtain ⟨ticker, hticker⟩ := Option.isSome_iff_exists.1 halive
  simp only [adopt, hticker, hrestarts, hnone, if_true, Ticker.start?, dif_pos hperiod]

end Poller

namespace Timeline

/-- The timer sends a fetch for a stream that is not under way, and it ends by its timeout. -/
theorem fired_of_stream {t : Timeline} {id : StreamId} {target : Target}
    (hr : t.poller.adopted.running = true)
    (htarget : t.poller.adopted.targets.find? (·.stream == id) = some target) :
    ∃ f : Fetch, t.now ≤ f.reply.due ∧
      f.reply.due ≤ t.now + t.poller.adopted.timeout.ceilMillis ∧
      t.fired.filter (·.target.stream == id) =
        if t.poller.isDue t.now && !t.poller.isBusy id then [f] else [] := by
  have hstarted (send : Target → Reply) :
      (t.poller.started send).filter (·.target.stream == id) =
        (t.poller.wanted.filter (·.stream == id)).map
          fun u => ⟨u, t.poller.adopted.generation, send u⟩ := List.filter_map
  obtain ⟨hle, hlimit⟩ :=
    due_reply (t.backend.answer target.metaUrl) t.now t.poller.adopted.timeout
  refine ⟨⟨target, t.poller.adopted.generation,
    t.ask target.metaUrl t.poller.adopted.timeout⟩, hle, hlimit, ?_⟩
  unfold fired
  cases t.poller.isDue t.now with
  | false => rfl
  | true =>
    rw [if_pos rfl, hstarted, Poller.wanted_of_stream hr, htarget]
    cases t.poller.isBusy id <;> rfl

/-- Whether what is sent goes to the first target of its stream, and ends as the backend answers
then. -/
def Directs (plan : Plan) (t : Timeline) : Prop :=
  ∀ a ∈ t.sent,
    plan.targets.find? (·.stream == a.fetch.target.stream) = some a.fetch.target ∧
      a.fetch.reply = t.ask a.fetch.target.metaUrl plan.timeout

theorem directs (t : Timeline) : t.Directs t.adopt.poller.adopted := by
  intro a ha
  obtain ⟨f, hf, rfl⟩ := List.mem_map.1 ha
  unfold fired at hf
  split at hf
  · obtain ⟨target, htarget, rfl⟩ := List.mem_map.1 hf
    have hfirst := Poller.find?_of_mem_wanted htarget
    exact ⟨hfirst, rfl⟩
  · cases hf

theorem sent_of_stream (t : Timeline) (id : StreamId) :
    t.sent.filter (Mark.concerns id) =
      (t.adopt.deliver.fired.filter (·.target.stream == id)).map fun f => ⟨t.now, f⟩ :=
  List.filter_map

theorem ended_of_stream (t : Timeline) (id : StreamId) :
    t.ended.filter (Mark.concerns id) =
      ((t.underWay.filter (·.target.stream == id)).filter fun f => f.reply.due ≤ t.now).map
        fun f => ⟨t.now, f⟩ := by
  rw [ended_eq, List.filter_map, ← List.filter_comm]
  rfl

theorem inFlight_of_stream (t : Timeline) (id : StreamId) :
    t.settle.poller.inFlight.filter (·.target.stream == id) =
      (t.underWay.filter (·.target.stream == id)).filter fun f => !(f.reply.due ≤ t.now) := by
  rw [inFlight_settle, List.filter_comm]

/-! ## While the plan stays -/

/-- Whether the plan is carried out, with a timer that fires at ticks from `c` on. -/
structure Ticking (c : Nat) (plan : Plan) (t : Timeline) : Prop where
  latest : t.poller.plan = plan
  adopted : t.poller.adopted = plan
  ticker : ∃ tk, t.poller.ticker = some tk ∧ tk.period = plan.interval.ceilMillis ∧
    tk.Beats c t.now

/-- Whether a stream is polled at its pace as well, and the fetches that have ended are those whose
end was due. -/
structure Polling (c : Nat) (plan : Plan) (id : StreamId) (t : Timeline) (earlier : List Mark)
    (last : Mark) (ended : List Mark) : Prop where
  ticking : t.Ticking c plan
  paced : Paced c plan.interval.ceilMillis plan.timeout.ceilMillis t.now earlier last
  inFlight : t.poller.inFlight.filter (·.target.stream == id) = last.pending t.now
  ended : ended = ((earlier ++ [last]).filter fun a => a.due ≤ t.now).map Mark.ending

variable {c : Nat} {plan : Plan} {id : StreamId} {t u : Timeline} {earlier ended : List Mark}
  {last : Mark} {target : Target}

theorem Ticking.adopt (h : t.Ticking c plan) (hr : plan.running = true) (hu : t.Follows u) :
    u.adopt = u := by
  have hsame : u.poller.adopted = u.poller.plan := by rw [hu.poller, h.adopted, h.latest]
  have hrunning : u.poller.plan.running ≠ false := by simp [hu.poller, h.latest, hr]
  have hturned : u.poller.Turned := fun _ => ⟨hsame, fun hpaused => absurd hpaused hrunning⟩
  rw [Timeline.adopt, hturned.adopt_eq]

theorem Ticking.settle (h : t.Ticking c plan) (hr : plan.running = true) (hu : t.Follows u) :
    u.settle.Ticking c plan := by
  obtain ⟨tk, htk, hperiod, hbeats⟩ := h.ticker
  have hadopt : u.adopt = u := h.adopt hr hu
  have hticker : u.poller.ticker = some tk := by rw [hu.poller, htk]
  refine ⟨by rw [plan_settle, hu.poller, h.latest],
    by rw [adopted_settle, hadopt, hu.poller, h.adopted], ?_⟩
  rw [ticker_settle, hadopt, now_settle, hticker]
  by_cases hdue : tk.next ≤ u.now
  · have hnow : u.now = tk.next := by
      have hlt := hbeats.lt
      have hle := hu.le_succ
      omega
    refine ⟨tk.rearm u.now, by simp [Poller.isDue, hticker, hdue], hperiod, ?_⟩
    rw [hnow]
    exact hbeats.rearm
  · refine ⟨tk, by simp [Poller.isDue, hticker, hdue], hperiod, hbeats.tick, by omega, ?_⟩
    have hle := hu.le
    exact fun k hk => hbeats.least k (by omega)

theorem Ticking.directs (h : t.Ticking c plan) (hr : plan.running = true) (hu : t.Follows u) :
    u.Directs plan := by
  have hdirects := u.directs
  rw [h.adopt hr hu, hu.poller, h.adopted] at hdirects
  exact hdirects

theorem Polling.inFlight_deliver (h : t.Polling c plan id earlier last ended)
    (hu : t.Follows u) :
    u.deliver.poller.inFlight.filter (·.target.stream == id) = last.pending u.now := by
  have hdeliver : u.deliver.poller.inFlight =
      u.poller.inFlight.filter fun f => !(f.reply.due ≤ u.now) := rfl
  rw [hdeliver, List.filter_comm, hu.poller, h.inFlight, last.filter_pending hu.le]

theorem Polling.fired (h : t.Polling c plan id earlier last ended) (hr : plan.running = true)
    (htarget : plan.targets.find? (·.stream == id) = some target) (hu : t.Follows u) :
    ∃ f : Fetch, u.now ≤ f.reply.due ∧ f.reply.due ≤ u.now + plan.timeout.ceilMillis ∧
      u.adopt.deliver.fired.filter (·.target.stream == id) =
        if u.poller.isDue u.now && last.due ≤ u.now then [f] else [] := by
  rw [h.ticking.adopt hr hu]
  have hadopted : u.deliver.poller.adopted = plan := by
    rw [← h.ticking.adopted, ← hu.poller]
    rfl
  have hbusy : u.deliver.poller.isBusy id = !(last.due ≤ u.now) := by
    rw [Poller.isBusy_eq_any, h.inFlight_deliver hu, Mark.pending]
    by_cases hlater : last.due ≤ u.now <;> simp [hlater]
  have hfired := fired_of_stream (t := u.deliver) (by rw [hadopted, hr]) (by rw [hadopted, htarget])
  rw [hadopted, hbusy, Bool.not_not] at hfired
  exact hfired

/-- At the next moment the stream is polled again if there is a tick and the last poll has ended. -/
theorem Polling.settle (h : t.Polling c plan id earlier last ended) (hr : plan.running = true)
    (htarget : plan.targets.find? (·.stream == id) = some target) (hu : t.Follows u) :
    ∃ earlier' last',
      earlier' ++ [last'] = earlier ++ [last] ++ u.sent.filter (Mark.concerns id) ∧
        u.settle.Polling c plan id earlier' last' (ended ++ u.ended.filter (Mark.concerns id)) := by
  obtain ⟨f, hle, hlimit, hfired⟩ := h.fired hr htarget hu
  obtain ⟨tk, htk, hperiod, hbeats⟩ := h.ticking.ticker
  have hdue : u.poller.isDue u.now = decide (tk.next ≤ u.now) := by
    simp [Poller.isDue, hu.poller, htk]
  have hunder : u.underWay.filter (·.target.stream == id) =
      last.pending t.now ++ u.adopt.deliver.fired.filter (·.target.stream == id) := by
    rw [underWay, List.filter_append, h.ticking.adopt hr hu, hu.poller, h.inFlight]
  have hticking := h.ticking.settle hr hu
  have hended := h.paced.ended hu.le hu.le_succ
  rw [← h.ended] at hended
  by_cases hpoll : tk.next ≤ u.now ∧ last.due ≤ u.now
  -- the timer had not run out at the last moment, so it does so a millisecond later
  · have hsent : u.adopt.deliver.fired.filter (·.target.stream == id) = [f] := by
      simp [hfired, hdue, hpoll]
    have hlt := hbeats.lt
    have hsucc := hu.le_succ
    have hnow : u.now = t.now + 1 := by omega
    have htick : ∃ k, u.now = c + k * plan.interval.ceilMillis := by
      obtain ⟨k, hk⟩ := hbeats.tick
      exact ⟨k, by rw [← hperiod]; omega⟩
    rw [sent_of_stream, ended_of_stream, hunder, hsent]
    refine ⟨earlier ++ [last], ⟨u.now, f⟩, rfl, hticking, ?_, ?_, ?_⟩
    · rw [now_settle]
      exact h.paced.poll hnow htick hpoll.2 rfl hle hlimit
    · rw [inFlight_of_stream, now_settle, hunder, hsent, List.filter_append,
        last.filter_pending hu.le, Mark.pending_of_sent, Mark.pending, if_pos hpoll.2,
        List.nil_append]
    · rw [now_settle, List.filter_append, List.map_append, ← List.append_assoc, hended,
        Mark.ending_of_sent hle, ← List.map_append, ← List.filter_append]
  · have hnone : u.adopt.deliver.fired.filter (·.target.stream == id) = [] := by
      rw [hfired, hdue]
      simpa using hpoll
    rw [sent_of_stream, ended_of_stream, hunder, hnone, List.append_nil]
    refine ⟨earlier, last, by simp, hticking, ?_, ?_, ?_⟩
    · rw [now_settle]
      refine h.paced.wait hu.le fun k hk hd => ?_
      -- a tick to come is not before the next one, and not before the end of the last poll
      rw [← hperiod] at hk hd ⊢
      have hleast := hbeats.least k hk
      omega
    · rw [inFlight_of_stream, now_settle, hunder, hnone, List.append_nil,
        last.filter_pending hu.le]
    · rw [now_settle, hended]

/-! ## When a plan is turned to -/

/-- Whether the poller turns to a plan at this moment and starts the timer anew, with nothing under
way. -/
structure Starts (plan : Plan) (t : Timeline) : Prop where
  latest : t.poller.plan = plan
  adopted : t.adopt.poller.adopted = plan
  ticker : ∃ tk, t.adopt.poller.ticker = some tk ∧ tk.period = plan.interval.ceilMillis ∧
    tk.next = t.now
  idle : t.adopt.poller.inFlight = []

theorem starts_of_new (hc : t.poller.Consistent) (halive : t.poller.ticker.isSome = true)
    (hr : t.poller.plan.running = true) (hperiod : 0 < t.poller.plan.interval.ceilMillis)
    (hnew : t.poller.adopted.running = false ∨
      t.poller.plan.generation ≠ t.poller.adopted.generation) : t.Starts t.poller.plan := by
  have hadopt := Poller.adopt_of_new hc halive hr hperiod hnew t.now
  have hpoller : t.adopt.poller = t.poller.adopt t.now := rfl
  rw [hadopt] at hpoller
  exact ⟨rfl, by rw [hpoller], ⟨_, by rw [hpoller], rfl, rfl⟩, by rw [hpoller]⟩

theorem Starts.isDue (h : t.Starts plan) : t.adopt.poller.isDue t.now = true := by
  obtain ⟨tk, htk, -, hnext⟩ := h.ticker
  simp [Poller.isDue, htk, hnext]

theorem Starts.ticking (h : t.Starts plan) : t.settle.Ticking t.now plan := by
  refine ⟨by rw [plan_settle, h.latest], by rw [adopted_settle, h.adopted], ?_⟩
  obtain ⟨tk, htk, hperiod, -⟩ := h.ticker
  rw [ticker_settle, if_pos h.isDue, now_settle, htk]
  exact ⟨tk.rearm t.now, rfl, hperiod, Ticker.beats_rearm t.now tk⟩

/-- The stream is polled at once. -/
theorem Starts.polling (h : t.Starts plan) (hr : plan.running = true)
    (htarget : plan.targets.find? (·.stream == id) = some target) :
    ∃ first, t.sent.filter (Mark.concerns id) = [first] ∧
      t.settle.Polling t.now plan id [] first (t.ended.filter (Mark.concerns id)) := by
  have hadopted : t.adopt.deliver.poller.adopted = plan := h.adopted
  have hbusy : t.adopt.deliver.poller.isBusy id = false := by
    simp [deliver, Poller.collect, Poller.isBusy, h.idle]
  have hstart : t.adopt.deliver.poller.isDue t.adopt.deliver.now = true := h.isDue
  have hfired := fired_of_stream (t := t.adopt.deliver) (by rw [hadopted, hr])
    (by rw [hadopted, htarget])
  rw [hbusy, hstart, hadopted] at hfired
  obtain ⟨f, hle, hlimit, hsent⟩ := hfired
  have hunder : t.underWay.filter (·.target.stream == id) = [f] := by
    rw [underWay, h.idle, List.nil_append, hsent]
    rfl
  rw [sent_of_stream, ended_of_stream, hunder, hsent]
  refine ⟨⟨t.now, f⟩, rfl, h.ticking, ?_, ?_, ?_⟩
  · rw [now_settle]
    exact Paced.start rfl hle hlimit
  · rw [inFlight_of_stream, now_settle, hunder, Mark.pending_of_sent]
  · rw [now_settle]
    exact Mark.ending_of_sent hle

end Timeline

/-! ## The polls of a run -/

/-- To ask for the same plan again changes nothing. -/
theorem Plan.update_update (plan : Plan) {u : PlanUpdate} (h : u.invalidate = false) :
    (plan.update u).update u = plan.update u := by
  have hgeneration : ((plan.update u).update u).generation = (plan.update u).generation := by
    simp [Plan.update, h, bne]
  exact congrArg (fun g => Plan.mk g u.running u.interval u.timeout u.targets) hgeneration

namespace Run

/-- The course of one stream: how it was polled at the moments so far. -/
def Course (c : Nat) (plan : Plan) (id : StreamId) (t : Timeline) (ts : List Timeline) : Prop :=
  ∃ earlier last, earlier ++ [last] = (ts.flatMap Timeline.sent).filter (Mark.concerns id) ∧
    t.Polling c plan id earlier last ((ts.flatMap Timeline.ended).filter (Mark.concerns id))

/-- The course of all streams: the plan was carried out at the moments so far. -/
def Directed (c : Nat) (plan : Plan) (t : Timeline) (ts : List Timeline) : Prop :=
  t.Ticking c plan ∧ ∀ m ∈ ts, m.Directs plan

section

variable {c : Nat} {plan : Plan} {id : StreamId} {target : Target} {t u : Timeline}
  {ts : List Timeline}

theorem Course.start (h : t.Starts plan) (hr : plan.running = true)
    (htarget : plan.targets.find? (·.stream == id) = some target) :
    Course t.now plan id t.settle [t] := by
  obtain ⟨first, hsent, hpolling⟩ := h.polling hr htarget
  refine ⟨[], first, ?_, ?_⟩
  · rw [List.flatMap_singleton, hsent]
    rfl
  · rw [List.flatMap_singleton]
    exact hpolling

theorem Course.follows (hr : plan.running = true)
    (htarget : plan.targets.find? (·.stream == id) = some target) (h : Course c plan id t ts)
    (hu : t.Follows u) : Course c plan id u.settle (ts ++ [u]) := by
  obtain ⟨earlier, last, hsent, h⟩ := h
  obtain ⟨earlier', last', hsame, h'⟩ := h.settle hr htarget hu
  refine ⟨earlier', last', ?_, ?_⟩
  · rw [hsame, hsent, List.flatMap_append, List.filter_append, List.flatMap_singleton]
  · rw [List.flatMap_append, List.filter_append, List.flatMap_singleton]
    exact h'

theorem Directed.start (h : t.Starts plan) : Directed t.now plan t.settle [t] :=
  ⟨h.ticking, List.forall_mem_singleton.2 (h.adopted ▸ t.directs)⟩

theorem Directed.follows (hr : plan.running = true) (h : Directed c plan t ts)
    (hu : t.Follows u) : Directed c plan u.settle (ts ++ [u]) := by
  obtain ⟨hticking, hsent⟩ := h
  exact ⟨hticking.settle hr hu,
    List.forall_mem_append.2 ⟨hsent, List.forall_mem_singleton.2 (hticking.directs hr hu)⟩⟩

end

/-- Let the poller turn to a plan that runs and resumes polling or is of a new generation, and let
later actions ask for no other plan.  Then every stream of the plan is polled at once, and after
each poll at the first tick that is later and not before the end of the poll; none of these is
skipped that has come by now.  Each poll ends once, within the timeout, and the next one is at most
a period away, or as many periods as the timeout takes.  The requests that are sent are those of the
polls of all streams.  Each is sent to the first target of its stream in the plan, and what comes of
it is what the backend answers there at that moment. -/
theorem polls_of_adopted (start : Int) (before later : List PollAction) (u : PlanUpdate)
    (target : Target) (halive : (timelineAfter start before).poller.ticker.isSome = true)
    (hrunning : u.running = true) (hperiod : 0 < u.interval.ceilMillis)
    (hnew :
      let p := (timelineAfter start before).poller
      p.adopted.running = false ∨ (p.plan.update u).generation ≠ p.adopted.generation)
    (hsame : ∀ v, .apply v ∈ later →
      let plan := (timelineAfter start before).poller.plan.update u
      plan.update v = plan)
    (htarget : target ∈ u.targets) :
    let t := timelineAfter start before
    let now := (timeline t (.apply u :: later)).now
    let period := u.interval.ceilMillis
    let limit := u.timeout.ceilMillis
    let all := sent t (.apply u :: later)
    let polls := all.filter (Mark.concerns target.stream)
    polls.head?.map (·.time) = some t.now ∧
      polls.IsChain (fun a b => a.Next t.now period b.time) ∧
      (∀ a ∈ polls.getLast?, ∀ r, a.Next t.now period r → now < r) ∧
      (∀ a ∈ polls, a.time ≤ a.due ∧ a.due ≤ a.time + limit ∧
        ∀ r, a.Next t.now period r → r - a.time ≤ max period (roundUp limit period)) ∧
      (ended t (.apply u :: later)).filter (Mark.concerns target.stream) =
        (polls.filter fun a => a.due ≤ now).map Mark.ending ∧
      (timeline t (.apply u :: later)).log = (all.map Mark.request).reverse ++ t.log ∧
      (∀ a ∈ all, u.targets.find? (·.stream == a.fetch.target.stream) = some a.fetch.target) ∧
      ∀ m ∈ moments t (.apply u :: later), ∀ a ∈ m.sent,
        a.fetch.reply = m.ask a.fetch.target.metaUrl u.timeout := by
  intro t now period limit all polls
  have hconsistent : t.poller.Consistent :=
    consistent_timeline Poller.consistent_initial before
  obtain ⟨first, hfirst⟩ : ∃ first, u.targets.find? (·.stream == target.stream) = some first :=
    Option.isSome_iff_exists.1 (List.find?_isSome.2 ⟨target, htarget, BEq.rfl⟩)
  have hstarts : (t.apply u).Starts (t.poller.plan.update u) :=
    Timeline.starts_of_new (t := t.apply u) (hconsistent.apply u) halive hrunning hperiod hnew
  have hcourse : Course t.now (t.poller.plan.update u) target.stream
      (timeline t (.apply u :: later)) (moments t (.apply u :: later)) :=
    moments_of_follows (P := Course t.now (t.poller.plan.update u) target.stream)
      (fun h hu => h.follows hrunning hfirst hu) (fun ⟨_, _, _, h⟩ => h.ticking.latest) hsame
      (Course.start hstarts hrunning hfirst)
  have hdirected : Directed t.now (t.poller.plan.update u)
      (timeline t (.apply u :: later)) (moments t (.apply u :: later)) :=
    moments_of_follows (P := Directed t.now (t.poller.plan.update u))
      (fun h hu => h.follows hrunning hu) (fun h => h.1.latest) hsame (Directed.start hstarts)
  obtain ⟨earlier, last, hpolls, hpolling⟩ := hcourse
  have hpaced := hpolling.paced
  have hended := hpolling.ended
  have heq : polls = earlier ++ [last] := hpolls.symm
  rw [heq]
  refine ⟨hpaced.first, hpaced.chain, fun a ha r hnext => ?_, fun a ha => ?_, hended,
    log_timeline t _, fun a ha => ?_, fun m hm a ha => (hdirected.2 m hm a ha).2⟩
  · rw [List.getLast?_concat, Option.mem_some_iff] at ha
    subst ha
    obtain ⟨k, rfl⟩ := hnext.tick
    exact hpaced.next k hnext.after hnext.ended
  · obtain ⟨htick, hle, hdue⟩ := hpaced.punctual a ha
    exact ⟨hle, hdue, fun r hnext => hnext.gap_le hperiod htick hdue⟩
  · obtain ⟨m, hm, ha⟩ := List.mem_flatMap.1 ha
    exact (hdirected.2 m hm a ha).1

/-- A stream whose answers take one and a half periods is polled at every other tick, and one whose
answers are quick at every tick.  The slow one is a target twice and is polled at the first. -/
theorem polls_of_slow_stream :
    let slow := "http://a/meta/x/main"
    let quick := "http://a/meta/y/main"
    let before : List PollAction :=
      [.serve slow { body := "1".toUTF8.toList, delay := 3 },
        .serve quick { body := "2".toUTF8.toList, delay := 1 }]
    let u : PlanUpdate :=
      { running := true, interval := .ofMillis 2, timeout := .ofMillis 5, invalidate := false
        targets := [⟨.parse "x", slow⟩, ⟨.parse "x/main", "http://b/meta/x/main"⟩,
          ⟨.parse "y", quick⟩] }
    let later : List PollAction := [.advance 6, .apply u, .advance 3]
    let t := timelineAfter 0 before
    let all := sent t (.apply u :: later)
    let polls := all.filter (Mark.concerns (.parse "x"))
    polls.map (·.time) = [0, 4, 8] ∧
      polls.IsChain (fun a b => a.Next t.now u.interval.ceilMillis b.time) ∧
      ((ended t (.apply u :: later)).filter (Mark.concerns (.parse "x"))).map (·.time) = [3, 7] ∧
      (∀ a ∈ all, u.targets.find? (·.stream == a.fetch.target.stream) = some a.fetch.target) ∧
      all.map Mark.request = [⟨0, slow⟩, ⟨0, quick⟩, ⟨2, quick⟩, ⟨4, slow⟩, ⟨4, quick⟩,
        ⟨6, quick⟩, ⟨8, slow⟩, ⟨8, quick⟩] := by
  intro slow quick before u later
  dsimp only
  have hsame : ∀ v, .apply v ∈ later →
      let plan := (timelineAfter 0 before).poller.plan.update u
      plan.update v = plan := by
    intro v hv
    have hv : v = u := by simpa [later] using hv
    rw [hv]
    exact Plan.update_update _ rfl
  obtain ⟨-, hchain, -, -, -, -, hfirst, -⟩ :=
    polls_of_adopted 0 before later u ⟨.parse "x", slow⟩
      (by decide +kernel) rfl (by decide +kernel) (.inl (by decide +kernel)) hsame
      List.mem_cons_self
  exact ⟨by decide +kernel, hchain, by decide +kernel, hfirst, by decide +kernel⟩

end Run

end VideoWall
