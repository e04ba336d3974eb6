import VideoWall.Proofs.Generations

/-!
# Fetches that end while others act

When a fetch is answered it takes several steps: it checks that it is current, keeps its record if
it still is, and then its outcome if it still is.  Here any number of fetches take these steps in
any order, between whatever happens to the poller.  A fetch that was cancelled may go on as well:
cancelling it comes too late once it is at work on its answer.

    three steps in a row are `Fetch.store`                                 (stores_of_undisturbed)
    what is written is what the latest plan wants                         (write_of_wanted_target)
-/

namespace VideoWall.Interleaving

/-- How far a fetch has come. -/
inductive Stage where
  /-- It waits for its answer. -/
  | waiting
  /-- It was current when its answer had come, at `time`. -/
  | answered (time : Instant)
  /-- Its record is in the cache, its outcome not yet on the board. -/
  | cached (time : Instant)
  | over
  deriving DecidableEq, Repr

/-- A fetch at work. -/
structure Task where
  fetch : Fetch
  stage : Stage := .waiting

inductive Store where
  | cache
  | board
  deriving DecidableEq, Repr

/-- What a store can hold of a stream. -/
inductive Entry where
  | record (payload : Json) (time : Instant)
  | outcome (status : FetchStatus)

namespace Entry

def store : Entry → Store
  | record .. => .cache
  | outcome _ => .board

/-- Keeps the entry if the condition holds; tells whether it did. -/
def commit (e : Entry) (id : StreamId) (current : Bool) (s : Stores) : Stores × Bool :=
  match e with
  | record payload time =>
    let (cache, done) := s.cache.putIf ⟨id, payload, time⟩ current
    ({ s with cache }, done)
  | outcome status =>
    let (board, done) := s.board.recordIf id status current
    ({ s with board }, done)

theorem commit_done (e : Entry) (id : StreamId) (current : Bool) (s : Stores) :
    (e.commit id current s).2 = current := by
  cases e <;> cases current <;> rfl

theorem commit_false (e : Entry) (id : StreamId) (s : Stores) :
    (e.commit id false s).1 = s := by
  cases e <;> rfl

end Entry

/-- What the next step of a fetch writes, if it is still current. -/
def Task.pending? (t : Task) : Option Entry :=
  match t.stage with
  | .answered time =>
    match decodeMetadata t.fetch.reply.outcome with
    | .ok payload => some (.record payload time)
    | .error failure =>
      let message := (DashboardError.metadataFetch t.fetch.target.metaUrl failure).message
      some (.outcome (.failed time message))
  | .cached time => some (.outcome (.ok time))
  | .waiting => none
  | .over => none

/-- The stage once that is written. -/
def Task.writtenStage (t : Task) : Stage :=
  match t.stage with
  | .answered time => if t.pending?.any (·.store = .cache) then .cached time else .over
  | _ => .over

/-- The stage after a step that found the fetch current. -/
def Task.nextStage (t : Task) (now : Instant) : Stage :=
  match t.stage with
  | .waiting => .answered now
  | _ => t.writtenStage

def Task.advance (t : Task) (current : Bool) (now : Instant) : Task :=
  { t with stage := if current then t.nextStage now else .over }

/-- What a fetch writes, made or under way. -/
structure Write where
  /-- Which of the fetches makes it, in the order in which they were sent. -/
  task : Nat
  fetch : Fetch
  entry : Entry

structure State where
  poller : Poller := {}
  /-- Every fetch that was ever sent, cancelled ones too. -/
  tasks : List Task := []
  stores : Stores := {}
  /-- All writes so far, latest first. -/
  writes : List Write := []

inductive Event where
  | poll (e : Poller.Event)
  /-- A fetch takes its next step. -/
  | advance (task : Nat) (now : Instant)

namespace State

/-- The next step of a fetch.  What it writes it writes in one go with the check before it. -/
def advance (s : State) (i : Nat) (now : Instant) : State :=
  match s.tasks[i]? with
  | none => s
  | some t =>
    match t.pending? with
    | none =>
      let current := s.poller.isCurrent t.fetch
      { s with tasks := s.tasks.set i (t.advance current now) }
    | some e =>
      let (stores, done) := e.commit t.fetch.target.stream (s.poller.isCurrent t.fetch) s.stores
      { s with
        tasks := s.tasks.set i (t.advance done now)
        stores
        writes := if done then ⟨i, t.fetch, e⟩ :: s.writes else s.writes }

/-- The fetches that an event sends. -/
def sent (s : State) : Poller.Event → List Fetch
  | .tick send _ => s.poller.started send
  | _ => []

def next (s : State) : Event → State
  | .poll e =>
    { s with
      poller := s.poller.next e
      tasks := s.tasks ++ (s.sent e).map fun fetch => { fetch } }
  | .advance i now => s.advance i now

/-- The state after events in any order. -/
def run (s : State) (es : List Event) : State := es.foldl next s

/-! ## What a step does -/

theorem run_append (s : State) (es fs : List Event) :
    s.run (es ++ fs) = (s.run es).run fs :=
  List.foldl_append

theorem run_cons (s : State) (e : Event) (es : List Event) :
    s.run (e :: es) = (s.next e).run es := rfl

theorem poller_advance (s : State) (i : Nat) (now : Instant) :
    (s.advance i now).poller = s.poller := by
  unfold advance
  split
  · rfl
  · split <;> rfl

/-- A step of a fetch writes nothing, or the fetch is current and writes its entry. -/
theorem advance_cases (s : State) (i : Nat) (now : Instant) :
    ((s.advance i now).stores = s.stores ∧ (s.advance i now).writes = s.writes) ∨
      ∃ t e, s.tasks[i]? = some t ∧ t.pending? = some e ∧ s.poller.isCurrent t.fetch = true ∧
        (s.advance i now).stores = (e.commit t.fetch.target.stream true s.stores).1 ∧
        (s.advance i now).writes = ⟨i, t.fetch, e⟩ :: s.writes := by
  unfold advance
  split
  · exact .inl ⟨rfl, rfl⟩
  · next t ht =>
    split
    · exact .inl ⟨rfl, rfl⟩
    · next e he =>
      simp only [Entry.commit_done]
      cases hc : s.poller.isCurrent t.fetch with
      | false => exact .inl ⟨Entry.commit_false e _ _, rfl⟩
      | true => exact .inr ⟨t, e, ht, he, hc, rfl, rfl⟩

theorem advance_unwritten (s : State) {i : Nat} {t : Task} (ht : s.tasks[i]? = some t)
    (h : t.pending? = none ∨ s.poller.isCurrent t.fetch = false) (now : Instant) :
    (s.advance i now).stores = s.stores ∧ (s.advance i now).writes = s.writes := by
  rcases advance_cases s i now with hsame | ⟨u, e, hu, he, hc, -⟩
  · exact hsame
  · cases ht.symm.trans hu
    rcases h with h | h
    · rw [h] at he
      cases he
    · rw [h] at hc
      cases hc

theorem exists_fetch_of_set {ts : List Task} {i j : Nat} {t u : Task} (current : Bool)
    (now : Instant) (ht : ts[j]? = some t) (hu : (ts.set j (t.advance current now))[i]? = some u) :
    ∃ v, ts[i]? = some v ∧ v.fetch = u.fetch := by
  rw [List.getElem?_set] at hu
  split at hu
  · next hji =>
    subst hji
    split at hu
    · refine ⟨t, ht, ?_⟩
      rw [← Option.some.inj hu]
      rfl
    · cases hu
  · exact ⟨u, hu, rfl⟩

/-- A fetch keeps its place among the fetches, and what it fetches. -/
theorem exists_fetch_of_next {s : State} {e : Event} {i : Nat} {t : Task}
    (hi : i < s.tasks.length) (h : (s.next e).tasks[i]? = some t) :
    ∃ u, s.tasks[i]? = some u ∧ u.fetch = t.fetch := by
  cases e with
  | poll e =>
    refine ⟨t, ?_, rfl⟩
    simpa only [next, List.getElem?_append_left hi] using h
  | advance j now =>
    simp only [next, advance] at h
    split at h
    · exact ⟨t, h, rfl⟩
    · next v hv =>
      split at h
      · exact exists_fetch_of_set _ now hv h
      · exact exists_fetch_of_set _ now hv h

theorem length_tasks_advance (s : State) (i : Nat) (now : Instant) :
    (s.advance i now).tasks.length = s.tasks.length := by
  unfold advance
  split
  · rfl
  · split <;> simp

theorem length_tasks_next (s : State) (e : Event) :
    s.tasks.length ≤ (s.next e).tasks.length := by
  cases e with
  | poll e => simp [next]
  | advance i now => exact Nat.le_of_eq (length_tasks_advance s i now).symm

theorem leadsTo_next (s : State) (e : Event) :
    s.poller.plan.LeadsTo (s.next e).poller.plan := by
  cases e with
  | poll e => exact s.poller.leadsTo_next e
  | advance i now =>
    show s.poller.plan.LeadsTo (s.advance i now).poller.plan
    rw [poller_advance]
    exact .refl _

theorem advance_of_getElem? {s : State} {i : Nat} {t : Task} (h : s.tasks[i]? = some t)
    (now : Instant) :
    (s.advance i now).tasks[i]? = some (t.advance (s.poller.isCurrent t.fetch) now) ∧
      (s.advance i now).stores =
        match t.pending? with
        | none => s.stores
        | some e => (e.commit t.fetch.target.stream (s.poller.isCurrent t.fetch) s.stores).1 := by
  have hi : i < s.tasks.length := (List.getElem?_eq_some_iff.1 h).1
  cases he : t.pending? with
  | none => simp only [advance, h, he, List.getElem?_set_self hi, and_self]
  | some e => simp only [advance, h, he, Entry.commit_done, List.getElem?_set_self hi, and_self]

/-- Three steps in a row are what a fetch does that nothing disturbs. -/
theorem stores_of_undisturbed (s : State) (i : Nat) (f : Fetch) (now later latest : Instant)
    (h : s.tasks[i]? = some { fetch := f }) :
    (((s.advance i now).advance i later).advance i latest).stores =
      f.store (s.poller.isCurrent f) now s.stores := by
  obtain ⟨h₁, s₁⟩ := advance_of_getElem? h now
  obtain ⟨h₂, s₂⟩ := advance_of_getElem? h₁ later
  obtain ⟨-, s₃⟩ := advance_of_getElem? h₂ latest
  rw [s₃, s₂, s₁]
  simp only [poller_advance]
  cases hc : s.poller.isCurrent f with
  | false => simp [Task.pending?, Task.advance, hc, Fetch.store]
  | true =>
    cases hd : decodeMetadata f.reply.outcome with
    | ok payload =>
      simp [Task.pending?, Task.advance, Task.nextStage, Task.writtenStage, hc, hd, Fetch.store,
        Entry.commit, Entry.store, Cache.putIf, Board.recordIf]
    | error failure =>
      simp [Task.pending?, Task.advance, Task.nextStage, Task.writtenStage, hc, hd, Fetch.store,
        Entry.commit, Entry.store, Board.recordIf]

/-! ## What is written is wanted -/

/-- Every fetch was sent under the latest plan or under one that led to it. -/
structure Sound (s : State) : Prop where
  consistent : s.poller.Consistent
  covered : ∀ (i : Nat) (t : Task), s.tasks[i]? = some t → s.poller.plan.Covers t.fetch

theorem sound_initial : Sound {} where
  consistent := Poller.consistent_initial
  covered := by simp

theorem covers_of_mem_sent {s : State} (h : s.Sound) {e : Poller.Event} {f : Fetch}
    (hf : f ∈ s.sent e) : s.poller.plan.Covers f := by
  cases e with
  | tick send now =>
    obtain ⟨hg, hw⟩ := Poller.wanted_of_mem_started hf
    have hc : s.poller.adopted.Covers f := ⟨by omega, fun _ => hw⟩
    exact hc.of_leadsTo h.consistent.leads
  | apply u => cases hf
  | adopt now => cases hf
  | collect now => cases hf

theorem Sound.next {s : State} (h : s.Sound) (e : Event) : (s.next e).Sound := by
  refine ⟨?_, fun i t ht => ?_⟩
  · cases e with
    | poll e => exact h.consistent.next e
    | advance i now =>
      show (s.advance i now).poller.Consistent
      rw [poller_advance]
      exact h.consistent
  · refine Plan.Covers.of_leadsTo (leadsTo_next s e) ?_
    by_cases hi : i < s.tasks.length
    · obtain ⟨u, hu, huf⟩ := exists_fetch_of_next hi ht
      rw [← huf]
      exact h.covered i u hu
    · -- only the timer adds fetches to those there are
      cases e with
      | poll e =>
        simp only [State.next, List.getElem?_append_right (Nat.le_of_not_lt hi)] at ht
        obtain ⟨f, hf, rfl⟩ := List.mem_map.1 (List.mem_of_getElem? ht)
        exact covers_of_mem_sent h hf
      | advance j now =>
        have hlen := (List.getElem?_eq_some_iff.1 ht).1
        simp only [State.next, length_tasks_advance] at hlen
        exact absurd hlen hi

theorem Sound.run {s : State} (h : s.Sound) (es : List Event) : (s.run es).Sound := by
  induction es generalizing s with
  | nil => exact h
  | cons e es ih => exact ih (h.next e)

/-- Fetches that are outdated once remain so. -/
theorem outdated_run {s : State} {n : Nat} (hn : n ≤ s.tasks.length)
    (h : ∀ (i : Nat) (t : Task), i < n → s.tasks[i]? = some t →
      t.fetch.generation < s.poller.plan.generation) (es : List Event) :
    ∀ (i : Nat) (t : Task), i < n → (s.run es).tasks[i]? = some t →
      t.fetch.generation < (s.run es).poller.plan.generation := by
  induction es generalizing s with
  | nil => exact h
  | cons e es ih =>
    refine ih (Nat.le_trans hn (length_tasks_next s e)) fun i t hi ht => ?_
    obtain ⟨u, hu, huf⟩ := exists_fetch_of_next (Nat.lt_of_lt_of_le hi hn) ht
    have hlt := h i u hi hu
    have hle : s.poller.plan.generation ≤ (s.next e).poller.plan.generation :=
      (leadsTo_next s e).generation_le
    rw [← huf]
    omega

/-- A plan that drops what was asked for outdates every fetch that was sent before. -/
theorem Sound.outdated_apply {s : State} (h : s.Sound) {u : PlanUpdate}
    (hu : s.poller.plan.Drops u) {i : Nat} {t : Task}
    (ht : (s.next (.poll (.apply u))).tasks[i]? = some t) (hi : i < s.tasks.length) :
    t.fetch.generation < (s.next (.poll (.apply u))).poller.plan.generation := by
  obtain ⟨v, hv, hvt⟩ := exists_fetch_of_next hi ht
  have hle := (h.covered i v hv).generation_le
  have hbump : (s.next (.poll (.apply u))).poller.plan.generation =
      s.poller.plan.generation + 1 := Plan.generation_update_of_drops hu
  rw [← hvt]
  omega

/-- A step of a fetch leaves the stores as they are, or the latest plan runs and has a target of the
stream that is fetched at the address it is fetched from.  In the second case the fetch was sent
after every plan that invalidated, paused or retargeted the one before it. -/
theorem write_of_wanted_target (es : List Event) (i : Nat) (now : Instant) :
    let s := run {} es
    let after := s.next (.advance i now)
    (after.stores = s.stores ∧ after.writes = s.writes) ∨
      ∃ t, s.tasks[i]? = some t ∧ s.poller.plan.running = true ∧
        (∃ target ∈ s.poller.plan.targets,
          (target.stream == t.fetch.target.stream) = true ∧
            target.metaUrl = t.fetch.target.metaUrl) ∧
        ∀ (before later : List Event) (u : PlanUpdate),
          es = before ++ .poll (.apply u) :: later →
          (run {} before).poller.plan.Drops u → (run {} before).tasks.length ≤ i := by
  intro s after
  rcases advance_cases s i now with hsame | ⟨t, e, ht, -, hc, -, -⟩
  · exact .inl hsame
  · right
    have hs : s.Sound := sound_initial.run es
    have hg : t.fetch.generation = s.poller.plan.generation := beq_iff_eq.1 hc
    obtain ⟨hr, hw⟩ := (hs.covered i t ht).wants hg
    refine ⟨t, ht, hr, hw, fun before later u hes hu => ?_⟩
    apply Nat.le_of_not_lt
    intro hlt
    -- a fetch sent before `u` is outdated by `u`, and the one at work is not
    have hb : (run {} before).Sound := sound_initial.run before
    have hlen : (run {} before).tasks.length ≤
        ((run {} before).next (.poll (.apply u))).tasks.length := length_tasks_next _ _
    have hrun : s = ((run {} before).next (.poll (.apply u))).run later := by
      rw [← run_cons, ← run_append, ← hes]
    rw [hrun] at ht hg
    have hold := outdated_run hlen (fun j v hj hv => hb.outdated_apply hu hv hj) later i t hlt ht
    omega

end State

end VideoWall.Interleaving
