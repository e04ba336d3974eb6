import VideoWall.Proofs.Discoveries

/-!
# The ends of fetches

Only the end of a fetch changes what is known of a stream, and only if the fetch is current then: it
leaves the outcome, and a record as well if there is metadata.  So whatever the stores hold of a
stream is from the latest of such ends, or was there before.

    (s.after e).cache.get? id = (e.record? id).or (s.cache.get? id)               (record_after)
    (s.after e).board.get? id = (e.outcome? id).or (s.board.get? id)             (outcome_after)
    a turn empties the stores or has the fetches end that are due                  (stores_next)
-/

namespace VideoWall

namespace Instant

instance : LE Instant := ⟨fun a b => a.nanoseconds ≤ b.nanoseconds⟩

instance (a b : Instant) : Decidable (a ≤ b) :=
  inferInstanceAs (Decidable (a.nanoseconds ≤ b.nanoseconds))

theorem le_refl (a : Instant) : a ≤ a := Int.le_refl a.nanoseconds

theorem le_trans {a b c : Instant} (h : a ≤ b) (k : b ≤ c) : a ≤ c := Int.le_trans h k

theorem ofMillis_le {a b : Int} (h : a ≤ b) : ofMillis a ≤ ofMillis b := by
  show a * 1000000 ≤ b * 1000000
  omega

end Instant

/-- The end of a fetch: whether it still counted, and when. -/
structure Ending where
  fetch : Fetch
  current : Bool
  time : Instant

namespace Ending

/-- Whether it counted and was of this stream. -/
def concerns (e : Ending) (id : StreamId) : Bool := e.current && e.fetch.target.stream == id

/-- The record that it leaves of the stream: there is one if it was successful. -/
def record? (id : StreamId) (e : Ending) : Option MetadataRecord :=
  if e.concerns id then
    match decodeMetadata e.fetch.reply.outcome with
    | .ok payload => some ⟨e.fetch.target.stream, payload, e.time⟩
    | .error _ => none
  else none

/-- The outcome that it leaves of the stream. -/
def outcome? (id : StreamId) (e : Ending) : Option FetchStatus :=
  if e.concerns id then
    match decodeMetadata e.fetch.reply.outcome with
    | .ok _ => some (.ok e.time)
    | .error failure =>
      some (.failed e.time (DashboardError.metadataFetch e.fetch.target.metaUrl failure).message)
  else none

end Ending

namespace Stores

/-- The stores after the end of a fetch. -/
def after (s : Stores) (e : Ending) : Stores := e.fetch.store e.current e.time s

theorem after_of_outdated {s : Stores} {e : Ending} (h : e.current = false) : s.after e = s := by
  simp only [after, Fetch.store, h, Bool.not_false, if_true]

/-- The end of a fetch leaves its record, or the record that there was. -/
theorem record_after (s : Stores) (e : Ending) (id : StreamId) :
    (s.after e).cache.get? id = (e.record? id).or (s.cache.get? id) := by
  cases hc : e.current with
  | false =>
    rw [after_of_outdated hc]
    simp [Ending.record?, Ending.concerns, hc]
  | true =>
    cases hd : decodeMetadata e.fetch.reply.outcome with
    | error failure => simp [after, Fetch.store, Ending.record?, hc, hd]
    | ok payload =>
      simp only [after, Fetch.store, Ending.record?, Ending.concerns, hc, hd, Cache.putIf,
        StreamMap.get?_insert, Bool.not_true, Bool.false_eq_true, if_true, if_false, Bool.true_and]
      split <;> rfl

/-- It leaves its outcome, or the one that there was. -/
theorem outcome_after (s : Stores) (e : Ending) (id : StreamId) :
    (s.after e).board.get? id = (e.outcome? id).or (s.board.get? id) := by
  cases hc : e.current with
  | false =>
    rw [after_of_outdated hc]
    simp [Ending.outcome?, Ending.concerns, hc]
  | true =>
    cases hd : decodeMetadata e.fetch.reply.outcome with
    | error failure =>
      simp only [after, Fetch.store, Ending.outcome?, Ending.concerns, hc, hd, Board.recordIf,
        StreamMap.get?_insert, Bool.not_true, Bool.false_eq_true, if_true, if_false, Bool.true_and]
      split <;> rfl
    | ok payload =>
      simp only [after, Fetch.store, Ending.outcome?, Ending.concerns, hc, hd, Cache.putIf,
        Board.recordIf, StreamMap.get?_insert, Bool.not_true, Bool.false_eq_true, if_true,
        if_false, Bool.true_and]
      split <;> rfl

/-- A failure leaves the cache as it is. -/
theorem cache_after_of_error {s : Stores} {e : Ending} {failure : FetchFailure}
    (h : decodeMetadata e.fetch.reply.outcome = .error failure) : (s.after e).cache = s.cache := by
  simp only [after, Fetch.store, h]
  split <;> rfl

/-- Of several ends the latest that leaves a record decides. -/
theorem record_foldl_after (es : List Ending) (s : Stores) (id : StreamId) :
    (es.foldl after s).cache.get? id =
      (es.reverse.findSome? (Ending.record? id)).or (s.cache.get? id) := by
  induction es generalizing s with
  | nil => rfl
  | cons e es ih =>
    rw [List.foldl_cons, ih, record_after, List.reverse_cons, List.findSome?_append,
      Option.or_assoc]
    congr 2
    rw [List.findSome?_singleton]

theorem outcome_foldl_after (es : List Ending) (s : Stores) (id : StreamId) :
    (es.foldl after s).board.get? id =
      (es.reverse.findSome? (Ending.outcome? id)).or (s.board.get? id) := by
  induction es generalizing s with
  | nil => rfl
  | cons e es ih =>
    rw [List.foldl_cons, ih, outcome_after, List.reverse_cons, List.findSome?_append,
      Option.or_assoc]
    congr 2
    rw [List.findSome?_singleton]

theorem cache_foldl_after_of_error {es : List Ending} (s : Stores)
    (h : ∀ e ∈ es, ∃ failure, decodeMetadata e.fetch.reply.outcome = .error failure) :
    (es.foldl after s).cache = s.cache := by
  induction es generalizing s with
  | nil => rfl
  | cons e es ih =>
    obtain ⟨failure, hf⟩ := h e List.mem_cons_self
    have hrest : (es.foldl after (s.after e)).cache = (s.after e).cache :=
      ih (s.after e) fun f hf => h f (List.mem_cons_of_mem e hf)
    exact hrest.trans (cache_after_of_error hf)

end Stores

namespace Timeline

/-- The fetches that end when the answers arrive that are due. -/
def endings (t : Timeline) : List Ending :=
  (t.poller.answered t.now).map fun f => ⟨f, t.poller.isCurrent f, t.instant⟩

theorem stores_deliver (t : Timeline) :
    t.deliver.stores = t.endings.foldl Stores.after t.stores := by
  simp only [deliver, endings, List.foldl_map]
  rfl

end Timeline

namespace Turn

/-- The fetches that end in a turn. -/
def endings (s : Session) : Turn → List Ending
  | collect => s.timeline.endings
  | _ => []

theorem time_of_mem_endings {s : Session} {t : Turn} {e : Ending} (h : e ∈ t.endings s) :
    e.time = s.timeline.instant := by
  cases t with
  | collect =>
    obtain ⟨f, -, rfl⟩ := List.mem_map.1 h
    rfl
  | _ => cases h

theorem instant_become_forget (s : Session) (d : Dashboard) (invalidate : Bool) :
    (s.become d invalidate).forget.timeline.instant = s.timeline.instant := rfl

/-- Time does not go back, and a turn empties the stores or has fetches end. -/
theorem clock_stores_next (s : Session) (t : Turn) :
    s.timeline.instant ≤ (t.next s).timeline.instant ∧
      (t.next s).timeline.stores =
        if t.base?.isSome then {} else (t.endings s).foldl Stores.after s.timeline.stores := by
  cases t with
  | switch text =>
    by_cases hb : Dashboard.baseOf text = ""
    · simp only [next, base?, Dashboard.switch, if_pos hb]
      exact ⟨Instant.le_refl _, rfl⟩
    · simp only [next, base?, Dashboard.switch, if_neg hb, instant_become_forget]
      exact ⟨Instant.le_refl _, rfl⟩
  | answer n =>
    cases hd : s.discoveries[n]? with
    | none =>
      rw [next_answer_none hd]
      exact ⟨Instant.le_refl _, rfl⟩
    | some d =>
      rw [next_answer_some hd, timeline_finish]
      split <;> exact ⟨Instant.le_refl _, rfl⟩
  | select raws =>
    rw [next_select]
    split <;> exact ⟨Instant.le_refl _, rfl⟩
  | collect => exact ⟨Instant.le_refl _, s.timeline.stores_deliver⟩
  | pass =>
    refine ⟨Instant.ofMillis_le ?_, rfl⟩
    simp only [next]
    omega
  | _ => exact ⟨Instant.le_refl _, rfl⟩

theorem instant_le_next (s : Session) (t : Turn) :
    s.timeline.instant ≤ (t.next s).timeline.instant := (clock_stores_next s t).1

theorem stores_next (s : Session) (t : Turn) :
    (t.next s).timeline.stores =
      if t.base?.isSome then {} else (t.endings s).foldl Stores.after s.timeline.stores :=
  (clock_stores_next s t).2

/-- The fetches that end in turns, in the order in which they do. -/
def ended (s : Session) : List Turn → List Ending
  | [] => []
  | t :: ts => t.endings s ++ ended (t.next s) ts

theorem instant_le_of_mem_ended {s : Session} {ts : List Turn} {e : Ending} (h : e ∈ ended s ts) :
    s.timeline.instant ≤ e.time := by
  induction ts generalizing s with
  | nil => cases h
  | cons t ts ih =>
    rcases List.mem_append.1 h with h | h
    · rw [time_of_mem_endings h]
      exact Instant.le_refl _
    · exact Instant.le_trans (instant_le_next s t) (ih h)

/-- Without a switch the stores are changed by the ends of fetches alone. -/
theorem stores_run {s : Session} {ts : List Turn} (h : ∀ t ∈ ts, t.base? = none) :
    (run s ts).timeline.stores = (ended s ts).foldl Stores.after s.timeline.stores := by
  induction ts generalizing s with
  | nil => rfl
  | cons t ts ih =>
    have hnext := stores_next s t
    rw [h t List.mem_cons_self, Option.isSome_none, if_neg Bool.false_ne_true] at hnext
    have hrun : (run (t.next s) ts).timeline.stores =
        (ended (t.next s) ts).foldl Stores.after (t.next s).timeline.stores :=
      ih fun u hu => h u (List.mem_cons_of_mem t hu)
    rw [ended, List.foldl_append, ← hnext]
    exact hrun

end Turn

end VideoWall
