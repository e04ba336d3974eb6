import Mathlib.Data.List.Basic
import VideoWall.Proofs.Endings

/-!
# Timelines that are alike to one stream

Two timelines with backends that agree at some addresses, which are the shared ones, and differ
elsewhere.  At a time some streams are under way in one of them and not in the other, but what is
under way at shared addresses is the same, and so is what is known of a stream whose metadata is
there.  Whatever happens to both of them keeps it so.

    a stream with metadata at a shared address is busy in both or in neither      (isBusy_of_alike)
    at shared addresses the same is wanted next                                     (Alike.wanted)
    other streams leave nothing of the stream when their fetches end        (Timeline.Alike.deliver)
-/

namespace VideoWall

variable {shared : String → Bool} {id : StreamId}

/-- What gives nothing may be left out. -/
theorem findSome?_filter {α β : Type} {f : α → Option β} {keep : α → Bool} {l : List α}
    (h : ∀ a ∈ l, keep a = false → f a = none) : (l.filter keep).findSome? f = l.findSome? f := by
  induction l with
  | nil => rfl
  | cons a l ih =>
    have htail := ih fun b hb => h b (List.mem_cons_of_mem a hb)
    cases ha : keep a with
    | false => simp only [List.filter_cons, ha, Bool.false_eq_true, if_false, htail,
        List.findSome?_cons, h a List.mem_cons_self ha]
    | true => simp only [List.filter_cons, ha, if_true, htail, List.findSome?_cons]

/-- Whether each stream is at one address only, and the stream `id` at a shared one. -/
structure Located (shared : String → Bool) (id : StreamId) (ts : List Target) : Prop where
  metaUrl : ∀ t ∈ ts, ∀ u ∈ ts, (t.stream == u.stream) = true → t.metaUrl = u.metaUrl
  shared : ∀ t ∈ ts, (t.stream == id) = true → shared t.metaUrl = true

theorem located_nil : Located shared id [] where
  metaUrl := by simp
  shared := by simp

/-! ## Pollers -/

namespace Poller

/-- Whether two pollers carry out the same plans, with the same fetches at shared addresses. -/
structure Alike (shared : String → Bool) (id : StreamId) (p q : Poller) : Prop where
  left : p.Consistent
  right : q.Consistent
  plan : p.plan = q.plan
  adopted : p.adopted = q.adopted
  ticker : p.ticker = q.ticker
  located : Located shared id p.plan.targets
  carried : Located shared id p.adopted.targets
  inFlight : p.inFlight.filter (fun f => shared f.target.metaUrl) =
    q.inFlight.filter fun f => shared f.target.metaUrl

namespace Alike

variable {p q : Poller}

theorem initial : Alike shared id {} {} where
  left := consistent_initial
  right := consistent_initial
  plan := rfl
  adopted := rfl
  ticker := rfl
  located := located_nil
  carried := located_nil
  inFlight := rfl

theorem symm (h : p.Alike shared id q) : q.Alike shared id p where
  left := h.right
  right := h.left
  plan := h.plan.symm
  adopted := h.adopted.symm
  ticker := h.ticker.symm
  located := h.plan ▸ h.located
  carried := h.adopted ▸ h.carried
  inFlight := h.inFlight.symm

theorem apply (h : p.Alike shared id q) {u : PlanUpdate} (hu : Located shared id u.targets) :
    (p.apply u).Alike shared id (q.apply u) where
  left := h.left.apply u
  right := h.right.apply u
  plan := congrArg (·.update u) h.plan
  adopted := h.adopted
  ticker := h.ticker
  located := hu
  carried := h.carried
  inFlight := h.inFlight

theorem adopt (h : p.Alike shared id q) (now : Nat) :
    (p.adopt now).Alike shared id (q.adopt now) := by
  have hrestarts : p.restarts = q.restarts := by simp only [restarts, h.plan, h.adopted]
  have hcancels : p.cancels = q.cancels := by simp only [cancels, h.plan, h.adopted]
  cases ht : p.ticker with
  | none =>
    have hu : q.ticker = none := h.ticker.symm.trans ht
    simpa only [Poller.adopt, ht, hu] using h
  | some ticker =>
    have hu : q.ticker = some ticker := h.ticker.symm.trans ht
    have hleft := h.left.adopt now
    have hright := h.right.adopt now
    simp only [Poller.adopt, ht, hu, ← hrestarts, ← hcancels] at hleft hright ⊢
    refine ⟨hleft, hright, h.plan, h.plan, by rw [h.plan], h.located, h.located, ?_⟩
    cases p.cancels with
    | true => rfl
    | false => exact h.inFlight

theorem collect (h : p.Alike shared id q) (now : Nat) :
    (p.collect now).Alike shared id (q.collect now) where
  left := h.left.collect now
  right := h.right.collect now
  plan := h.plan
  adopted := h.adopted
  ticker := h.ticker
  located := h.located
  carried := h.carried
  inFlight := by
    simp only [Poller.collect]
    rw [List.filter_comm, h.inFlight, List.filter_comm]

/-- The fetch of a stream at a shared address is at that address too, so that it is in both. -/
theorem isBusy_of_alike (h : p.Alike shared id q) {t : Target} (ht : t ∈ p.adopted.targets)
    (hs : shared t.metaUrl = true) (hbusy : p.isBusy t.stream = true) :
    q.isBusy t.stream = true := by
  obtain ⟨f, hf, hft⟩ := List.any_eq_true.1 hbusy
  -- the plan has a target for what is under way, and its stream is at one address only
  obtain ⟨-, -, u, hu, huf, hurl⟩ := h.left.wanted f hf
  have hsame : u.metaUrl = t.metaUrl := h.carried.metaUrl u hu t ht (BEq.trans huf hft)
  have hshared : shared f.target.metaUrl = true := by rw [← hurl, hsame, hs]
  have hmem : f ∈ p.inFlight.filter fun f => shared f.target.metaUrl :=
    List.mem_filter.2 ⟨hf, hshared⟩
  rw [h.inFlight] at hmem
  exact List.any_eq_true.2 ⟨f, (List.mem_filter.1 hmem).1, hft⟩

theorem isBusy_eq (h : p.Alike shared id q) {t : Target} (ht : t ∈ p.adopted.targets)
    (hs : shared t.metaUrl = true) : p.isBusy t.stream = q.isBusy t.stream := by
  rw [Bool.eq_iff_iff]
  exact ⟨h.isBusy_of_alike ht hs, h.symm.isBusy_of_alike (h.adopted ▸ ht) hs⟩

theorem filter_wanted (hc : Located shared id p.adopted.targets) :
    p.wanted.filter (fun t => shared t.metaUrl) =
      if p.adopted.running then
        StreamId.distinctBy (·.stream)
          ((p.adopted.targets.filter fun t => !p.isBusy t.stream).filter fun t => shared t.metaUrl)
      else [] := by
  unfold Poller.wanted
  split
  · refine (StreamId.distinctBy_filter fun a ha b hb hab => ?_).symm
    rw [hc.metaUrl a (List.mem_filter.1 ha).1 b (List.mem_filter.1 hb).1 hab]
  · rfl

theorem wanted (h : p.Alike shared id q) :
    p.wanted.filter (fun t => shared t.metaUrl) = q.wanted.filter fun t => shared t.metaUrl := by
  rw [filter_wanted h.carried, filter_wanted h.symm.carried, ← h.adopted]
  congr 2
  simp only [List.filter_filter]
  refine List.filter_congr fun t ht => ?_
  cases hs : shared t.metaUrl with
  | false => rfl
  | true => rw [h.isBusy_eq ht hs]

theorem started (h : p.Alike shared id q) {send ask : Target → Reply}
    (hsend : ∀ t, shared t.metaUrl = true → send t = ask t) :
    (p.started send).filter (fun f => shared f.target.metaUrl) =
      (q.started ask).filter fun f => shared f.target.metaUrl := by
  have hsplit (r : Poller) (reply : Target → Reply) :
      (r.started reply).filter (fun f => shared f.target.metaUrl) =
        (r.wanted.filter fun t => shared t.metaUrl).map fun target =>
          { target, generation := r.adopted.generation, reply := reply target } := List.filter_map
  rw [hsplit, hsplit, ← h.wanted, h.adopted]
  refine List.map_congr_left fun t ht => ?_
  rw [hsend t (List.mem_filter.1 ht).2]

theorem tick (h : p.Alike shared id q) {send ask : Target → Reply}
    (hsend : ∀ t, shared t.metaUrl = true → send t = ask t) (now : Nat) :
    (p.tick send now).Alike shared id (q.tick ask now) where
  left := h.left.tick send now
  right := h.right.tick ask now
  plan := h.plan
  adopted := h.adopted
  ticker := congrArg (Option.map (Ticker.rearm now)) h.ticker
  located := h.located
  carried := h.carried
  inFlight := by
    simp only [Poller.tick, List.filter_append]
    rw [h.inFlight, h.started hsend]

end Alike

end Poller

/-! ## Timelines -/

theorem Backend.answer_serve (b : Backend) (url other : String) (a : Answer) :
    (b.serve url a).answer other = if other == url then a else b.answer other := by
  unfold serve answer
  rw [List.lookup_cons]
  cases h : other == url with
  | true => rfl
  | false =>
    simp only [Bool.false_eq_true, if_false]
    congr 1
    induction b.answers with
    | nil => rfl
    | cons e l ih =>
      obtain ⟨first, given⟩ := e
      by_cases he : first = url
      · have hne : (other == first) = false := by rw [he, h]
        simp only [List.filter_cons, he, bne_self_eq_false, Bool.false_eq_true, if_false]
        rw [ih, List.lookup_cons, ← he, hne]
      · simp only [List.filter_cons, bne_iff_ne.2 he, if_true, List.lookup_cons]
        rw [ih]

namespace Timeline

/-- Whether two timelines are at the same moment and the same is known of the stream, after the same
requests to shared addresses at the same times. -/
structure Agree (shared : String → Bool) (id : StreamId) (t u : Timeline) : Prop where
  now : t.now = u.now
  log : t.log.filter (fun r => shared r.url) = u.log.filter fun r => shared r.url
  record : t.stores.cache.get? id = u.stores.cache.get? id
  outcome : t.stores.board.get? id = u.stores.board.get? id

/-- Whether they go on to agree: the backends do at shared addresses, and so do the pollers. -/
structure Alike (shared : String → Bool) (id : StreamId) (t u : Timeline) : Prop
    extends Agree shared id t u where
  start : t.start = u.start
  answer : ∀ url, shared url = true → t.backend.answer url = u.backend.answer url
  poller : t.poller.Alike shared id u.poller

theorem filter_log_note (t : Timeline) (urls : List String) :
    (t.note urls).log.filter (fun r => shared r.url) =
      ((urls.filter shared).map fun url => (⟨t.now, url⟩ : Request)).reverse ++
        t.log.filter fun r => shared r.url := by
  simp only [note, List.filter_append, List.filter_reverse, List.filter_map]
  rfl

namespace Alike

variable {t u : Timeline}

theorem symm (h : t.Alike shared id u) : u.Alike shared id t where
  now := h.now.symm
  log := h.log.symm
  record := h.record.symm
  outcome := h.outcome.symm
  start := h.start.symm
  answer := fun url hs => (h.answer url hs).symm
  poller := h.poller.symm

theorem instant (h : t.Alike shared id u) : t.instant = u.instant := by
  simp only [Timeline.instant, h.start, h.now]

theorem initial (start : Int) : Alike shared id { start } { start } where
  now := rfl
  log := rfl
  record := rfl
  outcome := rfl
  start := rfl
  answer := fun _ _ => rfl
  poller := .initial

theorem pass (h : t.Alike shared id u) :
    { t with now := t.now + 1 }.Alike shared id { u with now := u.now + 1 } :=
  { h with now := congrArg (· + 1) h.now }

theorem serve (h : t.Alike shared id u) {url : String} {a b : Answer}
    (hab : shared url = true → a = b) : (t.serve url a).Alike shared id (u.serve url b) :=
  { h with
    answer := by
      intro other hs
      simp only [Timeline.serve, Backend.answer_serve]
      cases hu : other == url with
      | true =>
        rw [eq_of_beq hu] at hs
        simp only [if_true, hab hs]
      | false =>
        simp only [Bool.false_eq_true, if_false]
        exact h.answer other hs }

theorem ask (h : t.Alike shared id u) {url : String} (hs : shared url = true) (timeout : Span) :
    t.ask url timeout = u.ask url timeout := by
  simp only [Timeline.ask, h.answer url hs, h.now]

theorem note (h : t.Alike shared id u) {urls others : List String}
    (hsame : urls.filter shared = others.filter shared) :
    (t.note urls).Alike shared id (u.note others) :=
  { h with
    log := by
      rw [filter_log_note, filter_log_note, hsame, h.now, h.log] }

theorem apply (h : t.Alike shared id u) {update : PlanUpdate}
    (hu : Located shared id update.targets) :
    (t.apply update).Alike shared id (u.apply update) :=
  { h with poller := h.poller.apply hu }

theorem adopt (h : t.Alike shared id u) : t.adopt.Alike shared id u.adopt :=
  { h with
    poller := by
      simp only [Timeline.adopt, ← h.now]
      exact h.poller.adopt t.now }

/-- Only fetches at shared addresses can be of the stream. -/
theorem endings_of_stream (h : t.Alike shared id u) {e : Ending} (he : e ∈ t.endings)
    (hs : shared e.fetch.target.metaUrl = false) : e.concerns id = false := by
  obtain ⟨f, hf, rfl⟩ := List.mem_map.1 he
  obtain ⟨-, -, target, ht, hstream, hurl⟩ := h.poller.left.wanted f (List.mem_filter.1 hf).1
  cases hid : f.target.stream == id with
  | false => simp [Ending.concerns, hid]
  | true =>
    have hshared := h.poller.carried.shared target ht (BEq.trans hstream hid)
    rw [hurl, hs] at hshared
    cases hshared

theorem filter_endings (t : Timeline) :
    t.endings.filter (fun e => shared e.fetch.target.metaUrl) =
      ((t.poller.inFlight.filter fun f => shared f.target.metaUrl).filter
        fun f => f.reply.due ≤ t.now).map fun f => ⟨f, t.poller.isCurrent f, t.instant⟩ := by
  rw [endings, Poller.answered, List.filter_map, ← List.filter_comm]
  rfl

theorem endings (h : t.Alike shared id u) :
    t.endings.filter (fun e => shared e.fetch.target.metaUrl) =
      u.endings.filter fun e => shared e.fetch.target.metaUrl := by
  simp only [filter_endings, Poller.isCurrent, h.poller.inFlight, h.poller.plan, h.now, h.instant]

theorem latest_of_stream {α : Type} (h : t.Alike shared id u) {f : Ending → Option α}
    (hf : ∀ e, e.concerns id = false → f e = none) :
    t.endings.reverse.findSome? f = u.endings.reverse.findSome? f := by
  have hkeep : ∀ {v w : Timeline}, v.Alike shared id w → v.endings.reverse.findSome? f =
      (v.endings.filter fun e => shared e.fetch.target.metaUrl).reverse.findSome? f := by
    intro v w hv
    rw [← List.filter_reverse]
    exact (findSome?_filter fun e he hs =>
      hf e (hv.endings_of_stream (List.mem_reverse.1 he) hs)).symm
  rw [hkeep h, hkeep h.symm, h.endings]

/-- Fetches at other addresses leave nothing of the stream when they end. -/
theorem deliver (h : t.Alike shared id u) : t.deliver.Alike shared id u.deliver :=
  { h with
    poller := by
      simp only [Timeline.deliver, ← h.now]
      exact h.poller.collect t.now
    record := by
      rw [stores_deliver, stores_deliver, Stores.record_foldl_after, Stores.record_foldl_after,
        h.record, h.latest_of_stream (f := Ending.record? id) fun e he => if_neg (by simp [he])]
    outcome := by
      rw [stores_deliver, stores_deliver, Stores.outcome_foldl_after, Stores.outcome_foldl_after,
        h.outcome, h.latest_of_stream (f := Ending.outcome? id) fun e he => if_neg (by simp [he])] }

theorem tick (h : t.Alike shared id u) : t.tick.Alike shared id u.tick := by
  have hurls : (t.poller.wanted.map (·.metaUrl)).filter shared =
      (u.poller.wanted.map (·.metaUrl)).filter shared := by
    rw [List.filter_map, List.filter_map]
    exact congrArg (List.map _) h.poller.wanted
  have hnoted := h.note hurls
  refine { hnoted with poller := ?_ }
  simp only [Timeline.tick, ← h.now]
  refine h.poller.tick (fun target hs => ?_) t.now
  rw [h.ask hs, h.poller.adopted]

theorem tickIfDue (h : t.Alike shared id u) : t.tickIfDue.Alike shared id u.tickIfDue := by
  have hdue : t.poller.isDue t.now = u.poller.isDue u.now := by
    simp only [Poller.isDue, h.poller.ticker, h.now]
  unfold Timeline.tickIfDue
  rw [← hdue]
  split
  · exact h.tick
  · exact h

theorem settle (h : t.Alike shared id u) : t.settle.Alike shared id u.settle :=
  h.adopt.deliver.tickIfDue.deliver

theorem step (h : t.Alike shared id u) : t.step.Alike shared id u.step := h.pass.settle

theorem elapse (h : t.Alike shared id u) (ms : Nat) :
    (t.elapse ms).Alike shared id (u.elapse ms) := by
  induction ms generalizing t u with
  | zero => exact h
  | succ ms ih => exact ih h.step

end Alike

end Timeline

end VideoWall
