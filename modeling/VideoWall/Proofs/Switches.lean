import VideoWall.Proofs.Interleavings
import VideoWall.Session

/-!
# Switching backends while fetches write

Every write is checked anew while its key is held, but the plan may change between that check and
the write.  Emptying a store takes several steps, for a store is emptied part by part, and a part is
emptied only while none of its keys is held.  Whatever order all this happens in, a store that is
emptied after the plan was invalidated is rid of the older fetches for good.

    a check and a write in a row are `State.advance`                                  (check_write)
    a new plan and then emptied stores are `Session.setBaseUrl`         (setBaseUrl_of_undisturbed)
    emptied stores never again hold what an older fetch wrote          (no_older_entry_after_clear)
-/

namespace VideoWall.Interleaving

/-- How the stores are cut into parts. -/
structure Sharding where
  parts : Nat
  part : StreamId → Nat
  part_lt : ∀ id, part id < parts
  /-- Spellings of one id are in one part. -/
  part_congr : ∀ a b : StreamId, (a == b) = true → part a = part b

def clearPart {α : Type} (σ : Sharding) (k : Nat) (m : StreamMap α) : StreamMap α :=
  ⟨m.entries.filter fun e => σ.part e.1 != k⟩

def clear (σ : Sharding) (s : Stores) (k : Nat) : Store → Stores
  | .cache => { s with cache := clearPart σ k s.cache }
  | .board => { s with board := clearPart σ k s.board }

/-- What a store holds of a stream. -/
def held? (s : Stores) (id : StreamId) : Store → Option Entry
  | .cache => (s.cache.get? id).map fun r => .record r.payload r.fetchedAt
  | .board => (s.board.get? id).map .outcome

/-- Whether a write is to a key of this store with this property. -/
def Write.isTo (w : Write) (store : Store) (p : StreamId → Bool) : Bool :=
  w.entry.store = store && p w.fetch.target.stream

structure Shared extends State where
  /-- The writes that are checked and not made yet.  Each of them holds its key. -/
  writing : List Write := []

namespace Shared

inductive Event where
  | poll (e : Poller.Event)
  /-- A fetch checks that it is current, and goes on to write what it has to write. -/
  | check (task : Nat) (now : Instant)
  /-- One of the writes under way is made. -/
  | write (n : Nat)
  | clear (store : Store) (part : Nat)

/-- Whether a key with this property is held. -/
def isHeld (s : Shared) (store : Store) (p : StreamId → Bool) : Bool :=
  s.writing.any fun w => w.isTo store p

/-- The state once the `n`-th of the writes under way is made. -/
def made (s : Shared) (n : Nat) (w : Write) : Shared where
  poller := s.poller
  tasks := s.tasks.modify w.task fun t => { t with stage := t.writtenStage }
  stores := (w.entry.commit w.fetch.target.stream true s.stores).1
  writes := w :: s.writes
  writing := s.writing.eraseIdx n

/-- The state after an event, if the event can happen now. -/
def next? (σ : Sharding) (s : Shared) : Event → Option Shared
  | .poll e => some { s with toState := s.toState.next (.poll e) }
  | .check i now =>
    match s.tasks[i]? with
    | none => none
    | some t =>
      match t.pending?, s.poller.isCurrent t.fetch with
      | some e, current =>
        if s.isHeld e.store (· == t.fetch.target.stream) then none
        else if current then some { s with writing := ⟨i, t.fetch, e⟩ :: s.writing }
        else some { s with toState := s.advance i now }
      | none, _ => some { s with toState := s.advance i now }
  | .write n => s.writing[n]?.map (s.made n)
  | .clear store k =>
    if s.isHeld store (σ.part · == k) then none
    else some { s with stores := Interleaving.clear σ s.stores k store }

/-- The state after events in this order, if they can happen in this order. -/
def run? (σ : Sharding) (s : Shared) (es : List Event) : Option Shared := es.foldlM (next? σ) s

/-- The latest write to a key. -/
def lastWrite? (s : Shared) (store : Store) (id : StreamId) : Option Write :=
  s.writes.find? fun w => w.isTo store (· == id)

/-! ## What is kept and what is emptied -/

variable {σ : Sharding}

theorem get?_clearPart {α : Type} (m : StreamMap α) (id : StreamId) (k : Nat) :
    (clearPart σ k m).get? id = if σ.part id = k then none else m.get? id := by
  unfold clearPart StreamMap.get?
  rw [List.find?_filter]
  split
  · next hk =>
    simp only [Option.map_eq_none_iff, List.find?_eq_none, decide_eq_true_eq, not_and]
    intro e _ he hid
    rw [σ.part_congr _ _ hid] at he
    simp [hk] at he
  · next hk =>
    congr 1
    congr 1
    funext e
    cases hid : e.1 == id with
    | false => simp
    | true => simp [σ.part_congr _ _ hid, hk]

theorem held?_commit (s : Stores) (e : Entry) (id other : StreamId) (store : Store) :
    held? (e.commit id true s).1 other store =
      if e.store = store ∧ (id == other) = true then some e else held? s other store := by
  cases e <;> cases store <;>
    simp only [Entry.commit, Entry.store, Cache.putIf, Board.recordIf, held?, if_true,
      StreamMap.get?_insert, reduceCtorEq, false_and, true_and, if_false] <;>
    split <;> rfl

theorem held?_clear_self (s : Stores) (store : Store) (id : StreamId) :
    held? (Interleaving.clear σ s (σ.part id) store) id store = none := by
  cases store <;> simp [Interleaving.clear, held?, get?_clearPart]

/-- Emptying a part of a store leaves of any stream what there is of it, or nothing. -/
theorem held?_clear (s : Stores) (k : Nat) (store other : Store) (id : StreamId) :
    held? (Interleaving.clear σ s k store) id other = none ∨
      held? (Interleaving.clear σ s k store) id other = held? s id other := by
  cases store <;> cases other <;> simp only [Interleaving.clear, held?, get?_clearPart, or_true] <;>
    (split <;> simp)

theorem run?_cons (s : Shared) (e : Event) (es : List Event) :
    s.run? σ (e :: es) = (s.next? σ e).bind fun t => t.run? σ es := rfl

/-! ## What a step does -/

/-- All that a step can do: something happens to the poller, a fetch goes on without writing, one
of the latest generation begins a write, a write under way is made, or a part is emptied of which no
key is held. -/
theorem next?_cases {s t : Shared} {e : Event} (h : s.next? σ e = some t) :
    (∃ p, t = { s with toState := s.toState.next (.poll p) }) ∨
      (∃ i now, t = { s with toState := s.advance i now } ∧
        t.stores = s.stores ∧ t.writes = s.writes) ∨
      (∃ w, t = { s with writing := w :: s.writing } ∧
        w.fetch.generation = s.poller.plan.generation) ∨
      (∃ n w, s.writing[n]? = some w ∧ t = s.made n w) ∨
      ∃ store k, e = .clear store k ∧ s.isHeld store (σ.part · == k) = false ∧
        t = { s with stores := Interleaving.clear σ s.stores k store } := by
  cases e with
  | poll p =>
    cases h
    exact .inl ⟨p, rfl⟩
  | check i now =>
    right
    simp only [next?] at h
    split at h
    · cases h
    · next u hu =>
      split at h
      · next e he =>
        split at h
        · cases h
        · split at h <;> cases h
          · next hc => exact .inr (.inl ⟨_, rfl, beq_iff_eq.1 hc⟩)
          · next hc =>
            have hold : s.poller.isCurrent u.fetch = false := by simpa using hc
            exact .inl ⟨i, now, rfl, s.toState.advance_unwritten hu (.inr hold) now⟩
      · next he =>
        cases h
        exact .inl ⟨i, now, rfl, s.toState.advance_unwritten hu (.inl he) now⟩
  | write n =>
    obtain ⟨w, hw, rfl⟩ := Option.map_eq_some_iff.1 h
    exact .inr (.inr (.inr (.inl ⟨n, w, hw, rfl⟩)))
  | clear store k =>
    simp only [next?] at h
    split at h <;> cases h
    next hfree => exact .inr (.inr (.inr (.inr ⟨store, k, rfl, by simpa using hfree, rfl⟩)))

theorem leadsTo_of_next? {s t : Shared} {e : Event} (h : s.next? σ e = some t) :
    s.poller.plan.LeadsTo t.poller.plan := by
  rcases next?_cases h with ⟨p, rfl⟩ | ⟨i, now, rfl, -⟩ | ⟨w, rfl, -⟩ | ⟨n, w, -, rfl⟩ |
    ⟨store, k, -, -, rfl⟩
  · exact s.toState.leadsTo_next (.poll p)
  · exact s.toState.leadsTo_next (.advance i now)
  · exact .refl _
  · exact .refl _
  · exact .refl _

/-- A check and a write in a row are a step that nothing comes between. -/
theorem check_write {s : Shared} {i : Nat} {t : Task} {e : Entry} (ht : s.tasks[i]? = some t)
    (he : t.pending? = some e) (hc : s.poller.isCurrent t.fetch = true)
    (hfree : s.isHeld e.store (· == t.fetch.target.stream) = false) (now : Instant) :
    s.run? σ [.check i now, .write 0] = some { s with toState := s.advance i now } := by
  have hcheck : s.next? σ (.check i now) =
      some { s with writing := ⟨i, t.fetch, e⟩ :: s.writing } := by
    simp only [next?, ht, he, hfree, hc, Bool.false_eq_true, if_false, if_true]
  have hstage : t.writtenStage = t.nextStage now := by
    unfold Task.pending? at he
    unfold Task.nextStage
    split at he
    · next hs => rw [hs]
    · next hs => rw [hs]
    · cases he
    · cases he
  have hset : (s.tasks.modify i fun t => { t with stage := t.writtenStage }) =
      s.tasks.set i (t.advance true now) := by
    let _ : Inhabited Task := ⟨t⟩
    rw [List.modify_eq_set, ht]
    simp only [Option.getD_some, Task.advance, hstage, if_true]
  rw [run?_cons, hcheck, Option.bind_some, run?_cons]
  simp only [next?, List.getElem?_cons_zero, Option.map_some, Option.bind_some, made, hset]
  simp only [State.advance, ht, he, hc, Entry.commit_done, if_true]
  rfl

/-! ## Emptying that nothing disturbs -/

theorem eq_empty_of_get? {α : Type} {m : StreamMap α} (h : ∀ id, m.get? id = none) :
    m = .empty := by
  obtain ⟨entries⟩ := m
  cases entries with
  | nil => rfl
  | cons e l =>
    have he := h e.1
    simp [StreamMap.get?] at he

/-- While no key is held, part after part can be emptied in any order. -/
theorem exists_run?_of_idle (σ : Sharding) {s : Shared} {es : List Event} (hs : s.writing = [])
    (hes : ∀ e ∈ es, ∃ store k, e = .clear store k) :
    ∃ t, s.run? σ es = some t ∧ t.poller = s.poller ∧
      ∀ store id, held? s.stores id store = none ∨ .clear store (σ.part id) ∈ es →
        held? t.stores id store = none := by
  induction es generalizing s with
  | nil => exact ⟨s, rfl, rfl, fun store id h => by simpa using h⟩
  | cons e es ih =>
    obtain ⟨other, k, rfl⟩ := hes e List.mem_cons_self
    have hnext : s.next? σ (.clear other k) =
        some { s with stores := Interleaving.clear σ s.stores k other } := by
      simp [next?, isHeld, hs]
    have hrest : ∀ e ∈ es, ∃ store k, e = .clear store k := fun e he =>
      hes e (List.mem_cons_of_mem _ he)
    obtain ⟨t, ht, hp, hheld⟩ :=
      ih (s := { s with stores := Interleaving.clear σ s.stores k other }) hs hrest
    refine ⟨t, ?_, hp, ?_⟩
    · rw [run?_cons, hnext]
      exact ht
    intro store id h
    apply hheld
    rcases h with hn | h
    · left
      rcases held?_clear s.stores k other store id with hk | hk
      · exact hk
      · exact hk.trans hn
    · rcases List.mem_cons.1 h with he | h
      · cases he
        exact .inl (held?_clear_self s.stores _ id)
      · exact .inr h

/-- Invalidating the plan and then emptying the parts of both stores, in any order, is what a switch
of backends does that nothing disturbs. -/
theorem setBaseUrl_of_undisturbed {s t : Session} {text : String} {call : Nat}
    (h : s.setBaseUrl text = .ok (t, call)) (tasks : List Task) (writes : List Write)
    {es : List Event} (hes : ∀ e ∈ es, ∃ store k, e = .clear store k)
    (hc : ∀ (store : Store) (k : Nat), k < σ.parts → .clear store k ∈ es) :
    ∃ u after, u.invalidate = true ∧
      run? σ ⟨⟨s.timeline.poller, tasks, s.timeline.stores, writes⟩, []⟩
        (.poll (.apply u) :: es) = some after ∧
      after.poller = t.timeline.poller ∧ after.stores = t.timeline.stores := by
  unfold Session.setBaseUrl at h
  split at h
  · next d hd =>
    obtain ⟨rfl, -⟩ := Prod.mk.inj (Except.ok.inj h)
    obtain ⟨after, hrun, hp, hheld⟩ := exists_run?_of_idle σ
      (s := ⟨State.next ⟨s.timeline.poller, tasks, s.timeline.stores, writes⟩
        (.poll (.apply (d.update true))), []⟩) rfl hes
    have hnone : ∀ store id, held? after.stores id store = none := fun store id =>
      hheld store id (.inr (hc store _ (σ.part_lt id)))
    have hcache : after.stores.cache = .empty :=
      eq_empty_of_get? fun id => Option.map_eq_none_iff.1 (hnone .cache id)
    have hboard : after.stores.board = .empty :=
      eq_empty_of_get? fun id => Option.map_eq_none_iff.1 (hnone .board id)
    refine ⟨d.update true, after, rfl, hrun, hp, ?_⟩
    calc after.stores
        = ⟨after.stores.cache, after.stores.board⟩ := rfl
      _ = {} := by rw [hcache, hboard]
  · cases h

/-! ## What is emptied stays free of what is older -/

theorem isTo_beq {w : Write} {store : Store} {id : StreamId} :
    w.isTo store (· == id) = true ↔
      w.entry.store = store ∧ (w.fetch.target.stream == id) = true := by
  simp [Write.isTo]

/-- A key of which nothing older than the generation `g` is left: what it holds was last written by
a fetch of that generation or a later one, and so is what is about to be written to it. -/
structure Renewed (g : Nat) (s : Shared) (store : Store) (id : StreamId) : Prop where
  entry : ∀ e, held? s.stores id store = some e →
    ∃ w, s.lastWrite? store id = some w ∧ w.entry = e ∧ g ≤ w.fetch.generation
  writing : ∀ w ∈ s.writing, w.isTo store (· == id) = true → g ≤ w.fetch.generation

theorem Renewed.made {g : Nat} {s : Shared} {store : Store} {id : StreamId}
    (h : s.Renewed g store id) {n : Nat} {w : Write} (hw : s.writing[n]? = some w) :
    (s.made n w).Renewed g store id where
  writing := fun v hv => h.writing v (List.mem_of_mem_eraseIdx hv)
  entry := by
    intro e he
    simp only [Shared.made, held?_commit] at he
    simp only [Shared.made, lastWrite?, List.find?_cons]
    -- the write is to this key, and then it is the latest, or to another one
    split at he
    · next hit =>
      have hto : w.isTo store (· == id) = true := isTo_beq.2 hit
      rw [hto]
      exact ⟨w, rfl, Option.some.inj he, h.writing w (List.mem_of_getElem? hw) hto⟩
    · next hmiss =>
      have hto : w.isTo store (· == id) = false :=
        Bool.eq_false_iff.2 fun hto => hmiss (isTo_beq.1 hto)
      rw [hto]
      exact h.entry e he

theorem Renewed.next? {g : Nat} {s t : Shared} {store : Store} {id : StreamId}
    (h : s.Renewed g store id) (hg : g ≤ s.poller.plan.generation) {e : Event}
    (ht : s.next? σ e = some t) : t.Renewed g store id := by
  rcases next?_cases ht with ⟨p, rfl⟩ | ⟨i, now, rfl, hs, hw⟩ | ⟨w, rfl, hw⟩ | ⟨n, w, hw, rfl⟩ |
    ⟨other, k, -, -, rfl⟩
  · exact ⟨h.entry, h.writing⟩
  · refine ⟨?_, h.writing⟩
    simp only [lastWrite?] at hs hw ⊢
    rw [hs, hw]
    exact h.entry
  · refine ⟨h.entry, fun v hv hto => ?_⟩
    rcases List.mem_cons.1 hv with rfl | hv
    · omega
    · exact h.writing v hv hto
  · exact h.made hw
  · refine ⟨fun e he => ?_, h.writing⟩
    rcases held?_clear s.stores k other store id with hn | hk
    · exact absurd (hn.symm.trans he) (by simp)
    · exact h.entry e (hk.symm.trans he)

/-- A part is emptied only while none of its keys is held, so nothing is about to be written to it
then. -/
theorem renewed_of_clear {g : Nat} {s t : Shared} {store : Store} {id : StreamId}
    (ht : s.next? σ (.clear store (σ.part id)) = some t) : t.Renewed g store id := by
  simp only [Shared.next?] at ht
  split at ht <;> cases ht
  next hfree =>
    refine ⟨fun e he => ?_, fun w hw hto => ?_⟩
    · exact absurd ((held?_clear_self s.stores store id).symm.trans he) (by simp)
    · obtain ⟨hstore, hid⟩ := isTo_beq.1 hto
      refine absurd (List.any_eq_true.2 ⟨w, hw, ?_⟩) hfree
      simp [Write.isTo, hstore, σ.part_congr _ _ hid]

theorem renewed_of_run? {g : Nat} {s t : Shared} {store : Store} {id : StreamId} {es : List Event}
    (hg : g ≤ s.poller.plan.generation)
    (h : s.Renewed g store id ∨ .clear store (σ.part id) ∈ es) (ht : s.run? σ es = some t) :
    t.Renewed g store id := by
  induction es generalizing s with
  | nil =>
    cases ht
    rcases h with h | h
    · exact h
    · cases h
  | cons e es ih =>
    rw [run?_cons] at ht
    obtain ⟨u, hu, ht⟩ := Option.bind_eq_some_iff.1 ht
    refine ih (Nat.le_trans hg (leadsTo_of_next? hu).generation_le) ?_ ht
    rcases h with h | h
    · exact .inl (h.next? hg hu)
    · rcases List.mem_cons.1 h with rfl | h
      · exact .inl (renewed_of_clear hu)
      · exact .inr h

/-- Once the plan is invalidated and every part of both stores is emptied after that, whatever else
happens in between and from then on, no store holds what a fetch of an older generation wrote: all
it holds was last written by a fetch of the new generation or of a later one. -/
theorem no_older_entry_after_clear (σ : Sharding) (s after : Shared) (u : PlanUpdate)
    (es : List Event) (hu : u.invalidate = true)
    (hrun : s.run? σ (.poll (.apply u) :: es) = some after)
    (hc : ∀ (store : Store) (k : Nat), k < σ.parts → .clear store k ∈ es)
    (store : Store) (id : StreamId) (e : Entry) (he : held? after.stores id store = some e) :
    ∃ w, after.lastWrite? store id = some w ∧ w.entry = e ∧
      (s.poller.plan.update u).generation ≤ w.fetch.generation ∧
      s.poller.plan.generation < w.fetch.generation := by
  rw [run?_cons, Shared.next?, Option.bind_some] at hrun
  have hbump : (s.poller.plan.update u).generation = s.poller.plan.generation + 1 :=
    Plan.generation_update_of_drops (.inl hu)
  have hr : after.Renewed (s.poller.plan.update u).generation store id :=
    renewed_of_run? (Nat.le_refl _) (.inr (hc store _ (σ.part_lt id))) hrun
  obtain ⟨w, hw, hwe, hg⟩ := hr.entry e he
  exact ⟨w, hw, hwe, hg, by omega⟩

end Shared

/-- One part for the source `cam1` and one for all others. -/
def twoParts : Sharding where
  parts := 2
  part id := if id.source = "cam1" then 0 else 1
  part_lt id := by split <;> omega
  part_congr a b h := by rw [(StreamId.beq_iff.1 h).1]

/-- A switch to the backend that is in use comes between the check of a fetch and its write, and a
fetch that is sent afterwards fills the cache. -/
theorem no_older_entry_after_same_backend :
    let target : Target := ⟨.parse "cam1", "http://x/meta/cam1/main"⟩
    let u : PlanUpdate := ⟨true, .ofMillis 500, .ofMillis 700, [target], true⟩
    let send : Target → Reply := fun _ => ⟨0, .ok [49]⟩
    let before : List Shared.Event :=
      [.poll (.apply u), .poll (.adopt 0), .poll (.tick send 0), .check 0 (.ofMillis 1),
        .check 0 (.ofMillis 1)]
    let es : List Shared.Event :=
      [.clear .cache 1, .write 0, .clear .cache 0, .poll (.adopt 2), .clear .board 0,
        .poll (.tick send 2), .check 1 (.ofMillis 3), .clear .board 1, .check 1 (.ofMillis 3),
        .write 0]
    ∃ s after, Shared.run? twoParts {} before = some s ∧ u.invalidate = true ∧
      s.run? twoParts (.poll (.apply u) :: es) = some after ∧
      (∀ (store : Store) (k : Nat), k < twoParts.parts → .clear store k ∈ es) ∧
      ∃ e, held? after.stores (.parse "cam1/main") .cache = some e ∧
        ∃ w, after.lastWrite? .cache (.parse "cam1/main") = some w ∧ w.entry = e ∧
          s.poller.plan.generation < w.fetch.generation := by
  intro target u send before es
  have hc : ∀ (store : Store) (k : Nat), k < twoParts.parts → .clear store k ∈ es := by
    intro store k hk
    have hk' : k = 0 ∨ k = 1 := by
      have : k < 2 := hk
      omega
    rcases hk' with rfl | rfl <;> cases store <;> simp [es]
  have hsome : ((Shared.run? twoParts {} before).bind fun s =>
      (s.run? twoParts (.poll (.apply u) :: es)).bind fun after =>
        held? after.stores (.parse "cam1/main") .cache).isSome = true := by
    decide +kernel
  obtain ⟨e, h⟩ := Option.isSome_iff_exists.1 hsome
  obtain ⟨s, hs, h⟩ := Option.bind_eq_some_iff.1 h
  obtain ⟨after, hrun, he⟩ := Option.bind_eq_some_iff.1 h
  obtain ⟨w, hw, hwe, -, hg⟩ :=
    Shared.no_older_entry_after_clear twoParts s after u es rfl hrun hc .cache
      (.parse "cam1/main") e he
  exact ⟨s, after, hs, rfl, hrun, hc, e, he, w, hw, hwe, hg⟩

end VideoWall.Interleaving
