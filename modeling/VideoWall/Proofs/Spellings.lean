import Mathlib.Data.List.TakeWhile
import VideoWall.Proofs.Polls

/-!
# Polling and spellings

A stream may be spelled in several ways, and the poller is given the spelling that was selected.  It
makes no difference: with all ids written out in full the poller does the same at every moment, with
the same requests, and keeps the same of every stream.

    ids are the same stream if they are the same in full                     (StreamId.full_inj_iff)
    writing ids out in full commutes with all that happens at a moment        (Timeline.full_settle)
    and what was sent before has no part in it                                (Timeline.settle_log)
-/

namespace VideoWall

/-! ## Lists in which every element is changed -/

section Lists

variable {α β : Type}

/-- A condition that a change makes no difference to keeps the same after it as before. -/
theorem filter_map_of {f : α → β} {p : β → Bool} {q : α → Bool} (h : ∀ a, p (f a) = q a)
    (l : List α) : (l.map f).filter p = (l.filter q).map f := by
  rw [List.filter_map]
  exact congrArg (List.map f) (List.filter_congr fun a _ => h a)

theorem beq_map_full [BEq α] {f : α → α} (hf : ∀ a b, (f a == f b) = (a == b))
    (l k : List α) : (l.map f == k.map f) = (l == k) := by
  induction l generalizing k with
  | nil => cases k <;> rfl
  | cons a l ih =>
    cases k with
    | nil => rfl
    | cons b k => rw [List.map_cons, List.map_cons, List.cons_beq_cons, List.cons_beq_cons, hf, ih]

end Lists

/-! ## Ids in full -/

namespace StreamId

/-- The id with its channel written out. -/
@[irreducible] def full (id : StreamId) : StreamId := parse id.canonical

theorem toList_raw_full (id : StreamId) :
    id.full.raw.toList = id.source.toList ++ '/' :: id.channel.toList := by
  have hslash : "/".toList = ['/'] := rfl
  simp only [full, parse, canonical, String.toList_append, hslash, List.append_assoc,
    List.singleton_append]

/-- The source is cut off before the first slash. -/
theorem ne_slash_of_mem_source {id : StreamId} {c : Char} (h : c ∈ id.source.toList) :
    (c != '/') = true := by
  rw [source, String.toList_ofList] at h
  exact List.mem_takeWhile_imp (p := (· != '/')) h

theorem source_full (id : StreamId) : id.full.source = id.source := by
  rw [source, toList_raw_full, List.takeWhile_append_of_pos fun _ => ne_slash_of_mem_source]
  simp

theorem channel_full (id : StreamId) : id.full.channel = id.channel := by
  rw [channel, toList_raw_full, List.dropWhile_append_of_pos fun _ => ne_slash_of_mem_source]
  simp

@[simp] theorem full_beq_full (a b : StreamId) : (a.full == b.full) = (a == b) := by
  rw [Bool.eq_iff_iff, beq_iff, beq_iff]
  simp only [source_full, channel_full]

theorem full_beq (a b : StreamId) : (a.full == b) = (a == b) := by
  rw [Bool.eq_iff_iff, beq_iff, beq_iff]
  simp only [source_full, channel_full]

theorem full_inj_iff {a b : StreamId} : a.full = b.full ↔ (a == b) = true := by
  refine ⟨fun h => ?_, fun h => ?_⟩
  · rw [← full_beq_full, h]
    exact BEq.rfl
  · obtain ⟨hsource, hchannel⟩ := beq_iff.1 h
    rw [full, full, canonical, canonical, hsource, hchannel]

theorem map_full_inj_iff {l k : List StreamId} : l.map full = k.map full ↔ (l == k) = true := by
  induction l generalizing k with
  | nil => cases k <;> simp
  | cons a l ih =>
    cases k with
    | nil => simp
    | cons b k =>
      rw [List.map_cons, List.map_cons, List.cons.injEq, full_inj_iff, ih, List.cons_beq_cons,
        Bool.and_eq_true]

/-- What is told apart alike before and after a change is repeated alike. -/
theorem distinctBy_map {α β : Type} {stream : α → StreamId} {other : β → StreamId} (f : α → β)
    (hf : ∀ a b, (other (f a) == other (f b)) = (stream a == stream b)) (l : List α) :
    distinctBy other (l.map f) = (distinctBy stream l).map f := by
  induction l with
  | nil => rfl
  | cons a l ih =>
    have hkept : ((distinctBy stream l).map f).filter (fun b => !(other b == other (f a))) =
        ((distinctBy stream l).filter fun b => !(stream b == stream a)).map f := by
      refine filter_map_of (fun b => ?_) _
      rw [hf]
    rw [List.map_cons, distinctBy, distinctBy, ih, hkept, List.map_cons]

end StreamId

/-- Spellings of one stream have the same addresses. -/
theorem compose_full (base : String) (id : StreamId) : compose base id.full = compose base id := by
  rw [compose, compose, StreamId.source_full, StreamId.channel_full]

theorem contains_full (ids : List StreamId) (id : StreamId) :
    ids.contains id.full = ids.contains id := by
  have hsame : (fun other => id.full == other) = fun other => id == other := by
    funext other
    exact StreamId.full_beq id other
  rw [List.contains_eq_any_beq, List.contains_eq_any_beq, hsame]

theorem contains_map_full (ids : List StreamId) (id : StreamId) :
    (ids.map StreamId.full).contains id = ids.contains id := by
  have hsame : ((fun other => id == other) ∘ StreamId.full) = fun other => id == other := by
    funext other
    rw [Function.comp_apply, BEq.comm, StreamId.full_beq, BEq.comm]
  rw [List.contains_eq_any_beq, List.contains_eq_any_beq, List.any_map, hsame]

/-! ## The poller -/

def Target.full (t : Target) : Target := { t with stream := t.stream.full }

theorem Target.stream_full (t : Target) : t.full.stream = t.stream.full := rfl

@[simp] theorem Target.full_beq_full (a b : Target) : (a.full == b.full) = (a == b) := by
  rw [Bool.eq_iff_iff, Target.beq_iff, Target.beq_iff]
  simp only [full, StreamId.full_beq_full]

def Plan.full (p : Plan) : Plan := { p with targets := p.targets.map Target.full }

def PlanUpdate.full (u : PlanUpdate) : PlanUpdate :=
  { u with targets := u.targets.map Target.full }

def Fetch.full (f : Fetch) : Fetch := { f with target := f.target.full }

theorem Plan.full_update (p : Plan) (u : PlanUpdate) :
    (p.update u).full = p.full.update u.full := by
  simp only [update, full, PlanUpdate.full, bne, beq_map_full Target.full_beq_full]

namespace Poller

/-- The poller with all ids written out. -/
def full (p : Poller) : Poller where
  plan := p.plan.full
  adopted := p.adopted.full
  ticker := p.ticker
  inFlight := p.inFlight.map Fetch.full

variable (p : Poller)

theorem full_apply (u : PlanUpdate) : (p.apply u).full = p.full.apply u.full := by
  simp only [apply, full, Plan.full_update]

theorem full_adopt (now : Nat) : (p.adopt now).full = p.full.adopt now := by
  have hticker : p.full.ticker = p.ticker := rfl
  cases ht : p.ticker with
  | none => simp only [adopt, hticker, ht]
  | some ticker =>
    have hcancels : p.full.cancels = p.cancels := rfl
    have hrestarts : p.full.restarts = p.restarts := rfl
    simp only [adopt, hticker, ht, hcancels, hrestarts]
    cases p.cancels <;> rfl

theorem full_collect (now : Nat) : (p.collect now).full = p.full.collect now := by
  simp only [collect, full, List.filter_map]
  rfl

theorem answered_full (now : Nat) : p.full.answered now = (p.answered now).map Fetch.full := by
  simp only [answered, full, List.filter_map]
  rfl

theorem isBusy_full (id : StreamId) : p.full.isBusy id.full = p.isBusy id := by
  have hsame : ((fun f : Fetch => f.target.stream == id.full) ∘ Fetch.full) =
      fun f => f.target.stream == id := by
    funext f
    exact StreamId.full_beq_full f.target.stream id
  rw [isBusy, isBusy, full, List.any_map, hsame]

theorem wanted_full : p.full.wanted = p.wanted.map Target.full := by
  have hrunning : p.full.adopted.running = p.adopted.running := rfl
  have hidle : p.full.adopted.targets.filter (fun t => !p.full.isBusy t.stream) =
      (p.adopted.targets.filter fun t => !p.isBusy t.stream).map Target.full := by
    have htargets : p.full.adopted.targets = p.adopted.targets.map Target.full := rfl
    rw [htargets]
    refine filter_map_of (fun t => ?_) _
    rw [Target.stream_full, isBusy_full]
  unfold wanted
  rw [hrunning, hidle]
  split
  · refine StreamId.distinctBy_map Target.full (fun a b => ?_) _
    rw [Target.stream_full, Target.stream_full, StreamId.full_beq_full]
  · rfl

theorem started_full {send : Target → Reply} (hsend : ∀ t, send t.full = send t) :
    p.full.started send = (p.started send).map Fetch.full := by
  simp only [started, wanted_full, List.map_map]
  refine List.map_congr_left fun t _ => ?_
  simp only [Function.comp_apply, hsend]
  rfl

theorem full_tick {send : Target → Reply} (hsend : ∀ t, send t.full = send t) (now : Nat) :
    (p.tick send now).full = p.full.tick send now := by
  have hinFlight : (p.inFlight ++ p.started send).map Fetch.full =
      p.full.inFlight ++ p.full.started send := by
    rw [List.map_append, ← started_full p hsend]
    rfl
  rw [tick, full, hinFlight]
  rfl

end Poller

/-! ## The stores -/

namespace StreamMap

variable {α β : Type}

/-- The map with all ids written out, those of its entries as well. -/
def full (f : α → β) (m : StreamMap α) : StreamMap β := ⟨m.entries.map fun e => (e.1.full, f e.2)⟩

theorem get?_full (f : α → β) (m : StreamMap α) (id : StreamId) :
    (m.full f).get? id = (m.get? id).map f := by
  have hsame : ((fun e : StreamId × β => e.1 == id) ∘ fun e : StreamId × α => (e.1.full, f e.2)) =
      fun e => e.1 == id := by
    funext e
    exact StreamId.full_beq e.1 id
  rw [get?, get?, full, List.find?_map, hsame, Option.map_map, Option.map_map]
  rfl

theorem full_insert (f : α → β) (m : StreamMap α) (id : StreamId) (a : α) :
    (m.insert id a).full f = (m.full f).insert id.full (f a) := by
  have hkept : (m.full f).entries.filter (fun e => !(e.1 == id.full)) =
      (m.entries.filter fun e => !(e.1 == id)).map fun e => (e.1.full, f e.2) := by
    refine filter_map_of (fun e => ?_) _
    rw [StreamId.full_beq_full]
  rw [insert, insert, hkept]
  rfl

end StreamMap

def MetadataRecord.full (r : MetadataRecord) : MetadataRecord := { r with stream := r.stream.full }

def Stores.full (s : Stores) : Stores := ⟨s.cache.full MetadataRecord.full, s.board.full id⟩

theorem Fetch.full_store (f : Fetch) (current : Bool) (now : Instant) (s : Stores) :
    (f.store current now s).full = f.full.store current now s.full := by
  cases current with
  | false => rfl
  | true =>
    have hreply : f.full.reply = f.reply := rfl
    have hurl : f.full.target.metaUrl = f.target.metaUrl := rfl
    simp only [store, hreply, hurl, Bool.not_true, Bool.false_eq_true, if_false]
    cases decodeMetadata f.reply.outcome with
    | ok payload =>
      simp only [Cache.putIf, Board.recordIf, Stores.full, StreamMap.full_insert, if_true]
      rfl
    | error failure =>
      simp only [Board.recordIf, Stores.full, StreamMap.full_insert, if_true]
      rfl

namespace Stores

theorem record_full (s : Stores) (id : StreamId) :
    (s.full.cache.get? id).map (fun r => (r.payload, r.fetchedAt)) =
      (s.cache.get? id).map fun r => (r.payload, r.fetchedAt) := by
  rw [full, StreamMap.get?_full, Option.map_map]
  rfl

theorem outcome_full (s : Stores) (id : StreamId) : s.full.board.get? id = s.board.get? id := by
  rw [full, StreamMap.get?_full, Option.map_id]
  rfl

end Stores

/-- A panel does not show how ids are spelled in the stores. -/
theorem Panel.build_full (s : Stores) (now : Instant) (id : StreamId) :
    build s.full now id = build s now id := by
  simp only [build, Stores.full, StreamMap.get?_full, Option.map_id]
  cases s.cache.get? id <;> rfl

/-! ## The timeline -/

namespace Timeline

/-- The timeline with all ids written out. -/
def full (t : Timeline) : Timeline := { t with poller := t.poller.full, stores := t.stores.full }

variable (t : Timeline)

theorem full_adopt : t.adopt.full = t.full.adopt := by
  simp only [adopt, full, Poller.full_adopt]

theorem full_deliver : t.deliver.full = t.full.deliver := by
  have hstores : (t.deliver.stores).full = t.full.deliver.stores := by
    simp only [deliver, full, Poller.answered_full, List.foldl_map]
    refine (List.foldl_hom Stores.full ?_).symm
    intro s f
    exact (f.full_store (t.poller.isCurrent f) t.instant s).symm
  have hpoller : t.deliver.poller.full = t.full.deliver.poller := t.poller.full_collect t.now
  rw [full, hstores, hpoller]
  rfl

theorem full_tick : t.tick.full = t.full.tick := by
  have hurls : t.full.poller.wanted.map (·.metaUrl) = t.poller.wanted.map (·.metaUrl) := by
    have hwanted : t.full.poller.wanted = t.poller.wanted.map Target.full := t.poller.wanted_full
    rw [hwanted, List.map_map]
    rfl
  have hpoller : t.tick.poller.full = t.full.tick.poller :=
    t.poller.full_tick (fun target => rfl) t.now
  rw [full, hpoller]
  simp only [tick, hurls]
  rfl

theorem full_settle : t.settle.full = t.full.settle := by
  have hdue (u : Timeline) : u.tickIfDue.full = u.full.tickIfDue := by
    have hsame : u.full.poller.isDue u.full.now = u.poller.isDue u.now := rfl
    unfold tickIfDue
    rw [hsame]
    split
    · exact u.full_tick
    · rfl
  rw [settle, full_deliver, hdue, full_deliver, full_adopt]
  rfl

/-! ### What was sent before -/

/-- The timeline with all ids written out, and without the requests that were sent before. -/
def bare (t : Timeline) : Timeline := { t.full with log := [] }

theorem full_eq_bare : t.full = { t.bare with log := t.log } := rfl

/-- The requests that were sent before are kept, and have no part in what happens. -/
theorem settle_log (l : List Request) :
    { t with log := l }.settle =
      { t.settle with log := (t.sent.map Mark.request).reverse ++ l } := by
  have htick (u : Timeline) :
      { u with log := l }.tickIfDue =
        { u.tickIfDue with
          log := ((u.fired.map fun f => ⟨u.now, f⟩).map Mark.request).reverse ++ l } := by
    have hdue : ({ u with log := l } : Timeline).poller.isDue u.now = u.poller.isDue u.now := rfl
    unfold tickIfDue fired
    rw [hdue]
    split
    · simp only [tick, note, Poller.started, List.map_map]
      rfl
    · rfl
  have hsettle : { t with log := l }.settle =
      { t.adopt.deliver with log := l }.tickIfDue.deliver := rfl
  rw [hsettle, htick]
  rfl

theorem sent_full : t.full.sent.map Mark.request = t.sent.map Mark.request := by
  have hlog : t.full.settle.log = t.settle.log := by rw [← full_settle]; rfl
  rw [log_settle_sent, log_settle_sent] at hlog
  exact List.reverse_inj.1 (List.append_cancel_right hlog)

variable {t} {u : Timeline}

/-- Timelines that are the same but for spellings and what was sent before send the same. -/
theorem sent_of_bare (h : t.bare = u.bare) :
    t.sent.map Mark.request = u.sent.map Mark.request := by
  have hfull (v : Timeline) : v.sent.map Mark.request = v.bare.sent.map Mark.request :=
    v.sent_full.symm
  rw [hfull t, hfull u, h]

/-- They go on to be the same. -/
theorem settle_of_bare (h : t.bare = u.bare) : t.settle.bare = u.settle.bare := by
  have hfull (v : Timeline) : v.settle.bare = { v.bare.settle with log := [] } := by
    rw [bare, full_settle, full_eq_bare, settle_log]
  rw [hfull t, hfull u, h]

theorem apply_of_bare (h : t.bare = u.bare) {v w : PlanUpdate} (hu : v.full = w.full) :
    (t.apply v).bare = (u.apply w).bare := by
  have hfull (x : Timeline) (v : PlanUpdate) : (x.apply v).bare = x.bare.apply v.full := by
    simp only [bare, full, apply, Poller.full_apply]
  rw [hfull, hfull, h, hu]

end Timeline

end VideoWall
