import Mathlib.Data.List.Induction
import VideoWall.Proofs.Numerals
import VideoWall.Run.Stores

/-!
# Writes and what is known

The stores are worked on by hand: records and outcomes are written if a condition holds, and each
store is emptied on its own.  What is known of a stream is what was last written of it since then,
under whatever spelling; what came of an action tells whether it was written.  A panel shows just
that.

    an action leaves its record, or else the one that there was              (record_apply)
    the latest write since a store was emptied decides       (record_of_log, status_of_log)
    an action that left no trace might as well be left out              (knowAlike_without)
    what is known of a stream, and what a panel shows of it       (known_of_latest_writes)
-/

namespace VideoWall

namespace PanelStatus

variable {status : Option FetchStatus} {lastUpdate : Option Instant}

theorem of_eq_stale_iff {message : String} {time : Instant} {last : Option Instant} :
    of status lastUpdate = stale message time last ↔
      status = some (.failed time message) ∧ last = lastUpdate := by
  cases status with
  | none => cases lastUpdate <;> simp [of]
  | some outcome => cases outcome <;> simp [of, and_comm, and_assoc, eq_comm]

theorem of_eq_fresh_iff {time : Instant} :
    of status lastUpdate = fresh time ↔
      status = some (.ok time) ∨ status = none ∧ lastUpdate = some time := by
  cases status with
  | none => cases lastUpdate <;> simp [of]
  | some outcome => cases outcome <;> simp [of]

theorem of_eq_waiting_iff :
    of status lastUpdate = waiting ↔ status = none ∧ lastUpdate = none := by
  cases status with
  | none => cases lastUpdate <;> simp [of]
  | some outcome => cases outcome <;> simp [of]

end PanelStatus

theorem Panel.body_build (stores : Stores) (now : Instant) (id : StreamId) :
    (build stores now id).body = (stores.cache.get? id).elim noMetadata (·.payload.pretty) := by
  unfold build
  cases stores.cache.get? id <;> rfl

namespace Run

/-! ## Actions in turn -/

/-- The stores after actions in turn. -/
def storesAfter (actions : List StoreAction) : Stores :=
  actions.foldl (fun s a => (a.apply s).1) {}

theorem storesAfter_concat (actions : List StoreAction) (a : StoreAction) :
    storesAfter (actions ++ [a]) = (a.apply (storesAfter actions)).1 := by
  rw [storesAfter, List.foldl_append]
  rfl

theorem storeRun_concat (actions : List StoreAction) (a : StoreAction) :
    storeRun (actions ++ [a]) = storeRun actions ++ [(a.apply (storesAfter actions)).2] := by
  -- the run is a fold over stores and outcomes, of which the stores alone are wanted
  have hstores (f : Stores × List StoreOutcome → StoreAction → Stores × List StoreOutcome)
      (hf : ∀ acc b, (b.apply acc.1).1 = (f acc b).1) :
      (actions.foldl f ({}, [])).1 = storesAfter actions := (List.foldl_hom Prod.fst hf).symm
  rw [storeRun, storeRun, List.foldl_append]
  simp only [List.foldl_cons, List.foldl_nil, List.reverse_cons]
  rw [hstores]
  exact fun _ _ => rfl

/-- What the stores answer when they are asked of a stream after actions in turn. -/
theorem storeRun_asked (actions : List StoreAction) (id : StreamId) (now : Instant) :
    storeRun (actions ++ [.get id, .status id, .panel id now]) =
      storeRun actions ++ [.record ((storesAfter actions).cache.get? id),
        .status ((storesAfter actions).board.get? id),
        .panel (.build (storesAfter actions) now id)] := by
  have hget : storesAfter (actions ++ [.get id]) = storesAfter actions := storesAfter_concat ..
  have hstatus : storesAfter (actions ++ [.get id] ++ [.status id]) = storesAfter actions :=
    (storesAfter_concat ..).trans hget
  rw [List.append_cons, List.append_cons, storeRun_concat, storeRun_concat, storeRun_concat, hget,
    hstatus]
  simp only [StoreAction.apply, List.append_assoc, List.cons_append, List.nil_append]

theorem length_storeRun (actions : List StoreAction) :
    (storeRun actions).length = actions.length := by
  induction actions using List.reverseRecOn with
  | nil => rfl
  | append_singleton actions a ih =>
    rw [storeRun_concat, List.length_append, List.length_append, ih]
    rfl

/-- Actions in turn, each with what came of it, the latest first. -/
def storeLog (actions : List StoreAction) : List (StoreAction × StoreOutcome) :=
  (actions.zip (storeRun actions)).reverse

theorem storeLog_concat (actions : List StoreAction) (a : StoreAction) :
    storeLog (actions ++ [a]) = (a, (a.apply (storesAfter actions)).2) :: storeLog actions := by
  rw [storeLog, storeRun_concat, List.zip_append (length_storeRun actions).symm,
    List.reverse_append]
  rfl

/-! ## What an action leaves -/

namespace StoreAction

/-- Whether all records are dropped. -/
def dropsRecords : StoreAction → Bool
  | resetCache => true
  | _ => false

/-- Whether all outcomes are dropped. -/
def dropsOutcomes : StoreAction → Bool
  | resetStatus => true
  | _ => false

/-- The stream of which something is to be written. -/
def written? : StoreAction → Option StreamId
  | put r _ => some r.stream
  | record id _ _ => some id
  | _ => none

end StoreAction

/-- The record of a stream that an action has written. -/
def writtenRecord? (id : StreamId) : StoreAction × StoreOutcome → Option MetadataRecord
  | (.put r _, .written true) =>
    if r.stream.source = id.source ∧ r.stream.channel = id.channel then some r else none
  | _ => none

/-- The outcome of a stream that an action has written. -/
def writtenOutcome? (id : StreamId) : StoreAction × StoreOutcome → Option FetchStatus
  | (.record other outcome _, .written true) =>
    if other.source = id.source ∧ other.channel = id.channel then some outcome else none
  | _ => none

theorem record_apply (s : Stores) (a : StoreAction) (id : StreamId) :
    (a.apply s).1.cache.get? id =
      if a.dropsRecords then none
      else (writtenRecord? id (a, (a.apply s).2)).or (s.cache.get? id) := by
  cases a with
  | put r current =>
    cases current with
    | false => rfl
    | true =>
      simp only [StoreAction.apply, StoreAction.dropsRecords, writtenRecord?, Cache.putIf, if_true,
        StreamMap.get?_insert, StreamId.beq_iff, Bool.false_eq_true, if_false]
      split <;> rfl
  | record other outcome current => cases current <;> rfl
  | _ => rfl

theorem outcome_apply (s : Stores) (a : StoreAction) (id : StreamId) :
    (a.apply s).1.board.get? id =
      if a.dropsOutcomes then none
      else (writtenOutcome? id (a, (a.apply s).2)).or (s.board.get? id) := by
  cases a with
  | record other outcome current =>
    cases current with
    | false => rfl
    | true =>
      simp only [StoreAction.apply, StoreAction.dropsOutcomes, writtenOutcome?, Board.recordIf,
        if_true, StreamMap.get?_insert, StreamId.beq_iff, Bool.false_eq_true, if_false]
      split <;> rfl
  | put r current => cases current <;> rfl
  | _ => rfl

/-! ## What actions in turn leave -/

/-- What is emptied by some actions, and otherwise left with what an action has written, is left
with the latest that was written since it was emptied. -/
theorem latest_of_log {α : Type} (read : Stores → Option α) {drops : StoreAction → Bool}
    {written? : StoreAction × StoreOutcome → Option α} (hstart : read {} = none)
    (hstep : ∀ s a, read (a.apply s).1 =
      if drops a then none else (written? (a, (a.apply s).2)).or (read s))
    (actions : List StoreAction) :
    read (storesAfter actions) =
      ((storeLog actions).takeWhile fun e => !drops e.1).findSome? written? := by
  induction actions using List.reverseRecOn with
  | nil => exact hstart
  | append_singleton actions a ih =>
    rw [storesAfter_concat, storeLog_concat, hstep, List.takeWhile_cons]
    cases drops a with
    | true => rfl
    | false =>
      simp only [Bool.not_false, if_true, Bool.false_eq_true, if_false, List.findSome?_cons, ← ih]
      cases written? (a, (a.apply (storesAfter actions)).2) <;> rfl

/-- The latest record written of the stream since the cache was emptied. -/
theorem record_of_log (actions : List StoreAction) (id : StreamId) :
    (storesAfter actions).cache.get? id =
      ((storeLog actions).takeWhile fun e => !e.1.dropsRecords).findSome? (writtenRecord? id) :=
  latest_of_log (fun s => s.cache.get? id) rfl (fun s a => record_apply s a id) actions

/-- The latest outcome written of the stream since the board was emptied. -/
theorem status_of_log (actions : List StoreAction) (id : StreamId) :
    (storesAfter actions).board.get? id =
      ((storeLog actions).takeWhile fun e => !e.1.dropsOutcomes).findSome?
        (writtenOutcome? id) :=
  latest_of_log (fun s => s.board.get? id) rfl (fun s a => outcome_apply s a id) actions

/-! ## Actions that leave no trace of a stream -/

/-- The same is known of a stream in two stores. -/
def KnowAlike (id : StreamId) (s t : Stores) : Prop :=
  s.cache.get? id = t.cache.get? id ∧ s.board.get? id = t.board.get? id

theorem writtenRecord?_apply (s t : Stores) (a : StoreAction) (id : StreamId) :
    writtenRecord? id (a, (a.apply s).2) = writtenRecord? id (a, (a.apply t).2) := by
  cases a with
  | put r current => cases current <;> rfl
  | _ => simp only [writtenRecord?]

theorem writtenOutcome?_apply (s t : Stores) (a : StoreAction) (id : StreamId) :
    writtenOutcome? id (a, (a.apply s).2) = writtenOutcome? id (a, (a.apply t).2) := by
  cases a with
  | record other outcome current => cases current <;> rfl
  | _ => simp only [writtenOutcome?]

namespace KnowAlike

variable {id : StreamId} {s t : Stores}

theorem apply (h : KnowAlike id s t) (a : StoreAction) :
    KnowAlike id (a.apply s).1 (a.apply t).1 := by
  refine ⟨?_, ?_⟩
  · rw [record_apply, record_apply, h.1, writtenRecord?_apply s t]
  · rw [outcome_apply, outcome_apply, h.2, writtenOutcome?_apply s t]

theorem foldl (h : KnowAlike id s t) (actions : List StoreAction) :
    KnowAlike id (actions.foldl (fun s a => (a.apply s).1) s)
      (actions.foldl (fun s a => (a.apply s).1) t) := by
  induction actions generalizing s t with
  | nil => exact h
  | cons a actions ih => exact ih (h.apply a)

/-- A panel shows what is known of its stream and nothing else. -/
theorem build_eq (h : KnowAlike id s t) (now : Instant) :
    Panel.build s now id = Panel.build t now id := by
  unfold Panel.build
  rw [h.1, h.2]

end KnowAlike

theorem apply_of_not_written {s : Stores} {a : StoreAction}
    (h : (a.apply s).2 = .written false) : (a.apply s).1 = s := by
  cases a with
  | put r current =>
    cases current with
    | false => rfl
    | true => cases h
  | record id outcome current =>
    cases current with
    | false => rfl
    | true => cases h
  | _ => cases h

theorem apply_of_other {a : StoreAction} {other id : StreamId} (h : a.written? = some other)
    (hne : (other == id) = false) (s : Stores) : KnowAlike id (a.apply s).1 s := by
  cases a with
  | put r current =>
    cases h
    refine ⟨?_, rfl⟩
    cases current with
    | false => rfl
    | true => exact (StreamMap.get?_insert ..).trans (by rw [hne]; rfl)
  | record other outcome current =>
    cases h
    refine ⟨rfl, ?_⟩
    cases current with
    | false => rfl
    | true => exact (StreamMap.get?_insert ..).trans (by rw [hne]; rfl)
  | _ => cases h

/-- Without an action that wrote nothing, or that was on another stream, the same is known. -/
theorem knowAlike_without {before : List StoreAction} {a : StoreAction} {id : StreamId}
    (h : (a.apply (storesAfter before)).2 = .written false ∨
      ∃ other, a.written? = some other ∧ (other == id) = false) (after : List StoreAction) :
    KnowAlike id (storesAfter (before ++ a :: after)) (storesAfter (before ++ after)) := by
  have hstep : KnowAlike id (a.apply (storesAfter before)).1 (storesAfter before) := by
    rcases h with hnone | ⟨other, hother, hne⟩
    · rw [apply_of_not_written hnone]
      exact ⟨rfl, rfl⟩
    · exact apply_of_other hother hne _
  have hrest := hstep.foldl after
  simpa only [storesAfter, List.foldl_append, List.foldl_cons] using hrest

/-! ## What a panel shows -/

/-- Whatever is done to the stores, what they answer when asked of a stream is the record that was
last written of it since the cache was emptied and the outcome that was last written of it since
the board was.  An action that wrote nothing, or that was on another stream, might as well be left
out.  A panel shows the record, or the notice if there is none, and its status is told by the
outcome and the time of the record. -/
theorem known_of_latest_writes (actions : List StoreAction) (id : StreamId) (now : Instant) :
    let s := storesAfter actions
    let log := (actions.zip (storeRun actions)).reverse
    let record := s.cache.get? id
    let status := s.board.get? id
    let panel := Panel.build s now id
    storeRun (actions ++ [.get id, .status id, .panel id now]) =
      storeRun actions ++ [.record record, .status status, .panel panel] ∧
    record = (log.takeWhile fun e => !e.1.dropsRecords).findSome? (writtenRecord? id) ∧
    status = (log.takeWhile fun e => !e.1.dropsOutcomes).findSome? (writtenOutcome? id) ∧
    (∀ before a after, actions = before ++ a :: after →
      ((a.apply (storesAfter before)).2 = .written false ∨
        ∃ other, a.written? = some other ∧ (other == id) = false) →
      let without := storesAfter (before ++ after)
      record = without.cache.get? id ∧ status = without.board.get? id ∧
        panel = Panel.build without now id) ∧
    panel.stream = id ∧
    panel.payload = record.map (·.payload) ∧
    (∀ r ∈ record, panel.body = r.payload.pretty) ∧
    (panel.body = noMetadata ↔ record = none) ∧
    (∀ message time last, panel.status = .stale message time last ↔
      status = some (.failed time message) ∧ last = record.map (·.fetchedAt)) ∧
    (∀ time, panel.status = .fresh time ↔
      status = some (.ok time) ∨ status = none ∧ record.map (·.fetchedAt) = some time) ∧
    (panel.status = .waiting ↔ status = none ∧ record = none) := by
  intro s log record status panel
  have hbody : panel.body = record.elim noMetadata (·.payload.pretty) := Panel.body_build s now id
  refine ⟨storeRun_asked actions id now, record_of_log actions id, status_of_log actions id,
    ?without, rfl, rfl, ?shown, ?notice, fun _ _ _ => PanelStatus.of_eq_stale_iff,
    fun _ => PanelStatus.of_eq_fresh_iff, ?waiting⟩
  case without =>
    rintro before a after rfl hnone
    have halike := knowAlike_without hnone after
    exact ⟨halike.1, halike.2, halike.build_eq now⟩
  case shown =>
    intro r hr
    rw [hbody, Option.mem_def.1 hr, Option.elim_some]
  case notice =>
    rw [hbody]
    cases record with
    | none => simp only [Option.elim_none]
    | some r => simp [Json.pretty_ne_noMetadata]
  case waiting => exact PanelStatus.of_eq_waiting_iff.trans (by rw [Option.map_eq_none_iff])

end Run

end VideoWall
