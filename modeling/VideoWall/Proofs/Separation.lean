import Mathlib.Data.List.Forall2
import VideoWall.Proofs.Discoveries
import VideoWall.Proofs.Likeness
import VideoWall.Proofs.Polls

/-!
# Streams do not disturb each other

Two pollers are given the same plans, or the same is done to two sessions, while their backends give
different answers for the metadata of some streams: slow ones, failures, none in time.  Every other
stream is polled at the same times in both, and the same is known of it.

    what is done to both timelines keeps them alike to the stream                  (alike_pollStep)
    what is done to both sessions keeps them alike to it, also while they wait        (alike_begin)
    the runs agree on the stream at every moment                           (agree_of_same_actions)
-/

namespace VideoWall

variable {shared : String → Bool} {id : StreamId}

/-! ## Runs of a poller -/

namespace Run

/-- Whether two actions are the same, or serve different answers at an address that is not
shared. -/
inductive PollAction.Alike (shared : String → Bool) (id : StreamId) :
    PollAction → PollAction → Prop
  | same (a : PollAction) (h : ∀ u, a = .apply u → Located shared id u.targets) :
    Alike shared id a a
  | apart (url : String) (a b : Answer) (h : shared url = false) :
    Alike shared id (.serve url a) (.serve url b)

theorem alike_store {t u : Timeline} (h : t.Alike shared id u) (a : StoreAction) :
    { t with stores := (a.apply t.stores).1 }.Alike shared id
      { u with stores := (a.apply u.stores).1 } := by
  have hrecord := h.record
  have houtcome := h.outcome
  have hstores : (a.apply t.stores).1.cache.get? id = (a.apply u.stores).1.cache.get? id ∧
      (a.apply t.stores).1.board.get? id = (a.apply u.stores).1.board.get? id := by
    cases a with
    | put r current =>
      cases current <;>
        simp [StoreAction.apply, Cache.putIf, StreamMap.get?_insert, hrecord, houtcome]
    | record other outcome current =>
      cases current <;>
        simp [StoreAction.apply, Board.recordIf, StreamMap.get?_insert, hrecord, houtcome]
    | resetCache => exact ⟨rfl, houtcome⟩
    | resetStatus => exact ⟨hrecord, rfl⟩
    | _ => exact ⟨hrecord, houtcome⟩
  exact { h with record := hstores.1, outcome := hstores.2 }

theorem alike_perform {t u : Timeline} (h : t.Alike shared id u) {a b : PollAction}
    (hab : a.Alike shared id b) : (a.perform t).1.Alike shared id (b.perform u).1 := by
  cases hab with
  | apart url x y hs => exact h.serve fun hshared => absurd hshared (Bool.eq_false_iff.1 hs)
  | same a ha =>
    cases a with
    | serve url x => exact h.serve fun _ => rfl
    | advance ms => exact h.elapse ms
    | apply update => exact h.apply (ha update rfl)
    | store action => exact alike_store h action
    | inspect ids => exact h

theorem alike_pollStep {t u : Timeline} (h : t.Alike shared id u) {a b : PollAction}
    (hab : a.Alike shared id b) : (pollStep t a).1.Alike shared id (pollStep u b).1 :=
  (alike_perform h hab).settle

theorem alike_timelineAfter (start : Int) {actions others : List PollAction}
    (h : List.Forall₂ (PollAction.Alike shared id) actions others) :
    (timelineAfter start actions).Alike shared id (timelineAfter start others) := by
  refine List.rel_foldl (P := Timeline.Alike shared id) ?_ (.initial start) h
  intro t u ht a b hab
  exact alike_pollStep ht hab

end Run

/-! ## Sessions -/

/-- Whether the streams of a backend and the metadata of `id` are at shared addresses. -/
structure Shares (shared : String → Bool) (id : StreamId) (base : String) : Prop where
  streams : shared (streamsUrl base) = true
  metadata : shared (compose base id).metaUrl = true

/-- Spellings of one stream have the same addresses. -/
theorem compose_of_beq (base : String) {a b : StreamId} (h : (a == b) = true) :
    compose base a = compose base b := by
  obtain ⟨hsource, hchannel⟩ := StreamId.beq_iff.1 h
  rw [compose, compose, hsource, hchannel]

theorem Dashboard.located_targets {d : Dashboard} (h : Shares shared id d.baseUrl) :
    Located shared id d.targets := by
  have hurl : ∀ t ∈ d.targets, t.metaUrl = (compose d.baseUrl t.stream).metaUrl := by
    intro t ht
    unfold targets at ht
    split at ht
    · obtain ⟨id, -, rfl⟩ := List.mem_map.1 ht
      rfl
    · cases ht
  refine ⟨fun t ht u hu htu => ?_, fun t ht hid => ?_⟩
  · rw [hurl t ht, hurl u hu, compose_of_beq _ htu]
  · rw [hurl t ht, compose_of_beq _ hid, h.metadata]

namespace Session

/-- Whether two sessions have the same dashboard, the same calls and timelines that are alike. -/
structure Alike (shared : String → Bool) (id : StreamId) (s t : Session) : Prop where
  dashboard : s.dashboard = t.dashboard
  discoveries : s.discoveries = t.discoveries
  calls : s.calls = t.calls
  shares : Shares shared id s.dashboard.baseUrl
  timeline : s.timeline.Alike shared id t.timeline

namespace Alike

variable {s t : Session}

theorem become (h : s.Alike shared id t) {d : Dashboard} (hd : Shares shared id d.baseUrl)
    (invalidate : Bool) : (s.become d invalidate).Alike shared id (t.become d invalidate) where
  dashboard := rfl
  discoveries := h.discoveries
  calls := h.calls
  shares := hd
  timeline := h.timeline.apply (Dashboard.located_targets hd)

theorem serve (h : s.Alike shared id t) {url : String} {a b : Answer}
    (hab : shared url = true → a = b) : (s.serve url a).Alike shared id (t.serve url b) :=
  { h with timeline := h.timeline.serve hab }

theorem forget (h : s.Alike shared id t) : s.forget.Alike shared id t.forget :=
  { h with timeline := { h.timeline with record := rfl, outcome := rfl } }

/-- Both send the same discovery, for the same call. -/
theorem discover (h : s.Alike shared id t) (keep : Bool) :
    (s.discover keep).1.Alike shared id (t.discover keep).1 ∧
      (s.discover keep).2 = (t.discover keep).2 := by
  refine ⟨⟨h.dashboard, ?_, congrArg (· + 1) h.calls, h.shares, ?_⟩, h.calls⟩
  · simp only [Session.discover, ← h.discoveries, ← h.calls, ← h.dashboard,
      ← h.timeline.ask h.shares.streams]
  · simp only [Session.discover, ← h.dashboard]
    exact h.timeline.note rfl

theorem updateConfig (h : s.Alike shared id t) (p : ConfigPatch) :
    (s.updateConfig p).Alike shared id (t.updateConfig p) := by
  simp only [Session.updateConfig, ← h.dashboard]
  exact h.become (d := s.dashboard.updateConfig p) h.shares false

theorem finish (h : s.Alike shared id t) (d : Discovery) :
    (s.finish d).Alike shared id (t.finish d) := by
  cases hd : s.dashboard.discovered d.baseUrl d.keepSelection (decodeStreams d.reply.outcome) with
  | none =>
    simp only [Session.finish, ← h.dashboard, hd]
    exact { h with dashboard := rfl }
  | some e =>
    have hshares : Shares shared id e.baseUrl := by
      obtain ⟨-, ⟨streams, -, rfl⟩ | ⟨failure, -, -, rfl⟩⟩ := Dashboard.eq_of_discovered hd
      · exact h.shares
      · exact h.shares
    simp only [Session.finish, ← h.dashboard, hd]
    exact { h.become hshares false with }

theorem foldl_finish (h : s.Alike shared id t) (ds : List Discovery) :
    (ds.foldl Session.finish s).Alike shared id (ds.foldl Session.finish t) := by
  induction ds generalizing s t with
  | nil => exact h
  | cons d ds ih => exact ih (h.finish d)

theorem deliver (h : s.Alike shared id t) : s.deliver.Alike shared id t.deliver := by
  have hwaiting (ds : List Discovery) :
      { s with discoveries := ds }.Alike shared id { t with discoveries := ds } :=
    { h with discoveries := rfl }
  simp only [Session.deliver, ← h.discoveries, ← h.timeline.now]
  exact (hwaiting _).foldl_finish _

theorem settle (h : s.Alike shared id t) : s.settle.Alike shared id t.settle :=
  { h.deliver with timeline := h.deliver.timeline.settle }

theorem elapse (h : s.Alike shared id t) (ms : Nat) :
    (s.elapse ms).Alike shared id (t.elapse ms) := by
  induction ms generalizing s t with
  | zero => exact h
  | succ ms ih => exact ih (settle { h with timeline := h.timeline.pass })

theorem prefer (h : s.Alike shared id t) (call : Nat) :
    (s.prefer call).Alike shared id (t.prefer call) :=
  { h with discoveries := by simp only [Session.prefer, h.discoveries] }

end Alike

end Session

namespace Run

/-- The address that an action turns to, if it is no request. -/
def Action.operationBase? : Action → Option String
  | setBaseUrl text => (Turn.switch text).base?
  | _ => none

/-- The address that an action turns to. -/
def Action.base? : Action → Option String
  | http r => (ofRequest r).bind operationBase?
  | a => a.operationBase?

/-- Whether two actions are the same, or serve different answers at an address that is not shared.
What they turn to is a backend that is shared as far as the stream is concerned. -/
inductive Action.Alike (shared : String → Bool) (id : StreamId) : Action → Action → Prop
  | same (a : Action) (h : ∀ base ∈ a.base?, Shares shared id base) : Alike shared id a a
  | apart (url : String) (a b : Answer) (h : shared url = false) :
    Alike shared id (.serve url a) (.serve url b)

/-- Whether two steps take such actions, both in the background or both not. -/
structure Step.Alike (shared : String → Bool) (id : StreamId) (a b : Step) : Prop where
  action : a.action.Alike shared id b.action
  background : a.background = b.background

/-- How the wait for a progress begins, and how many milliseconds it takes. -/
def Progress.opening (s : Session) : Progress → Session × Nat
  | finished _ => (s, 0)
  | clock time => (s, time - s.timeline.now)
  | call c _ =>
    match s.due? c with
    | none => (s.settle, 0)
    | some due => ((s.prefer c).settle, due - s.timeline.now)

/-- A session while it waits: so many milliseconds after it began an action. -/
def during (s : Session) (a : Action) (ms : Nat) : Session :=
  ((begin s a).2.opening (begin s a).1).1.elapse ms

theorem pass_eq_elapse (s : Session) (p : Progress) :
    p.pass s = (p.opening s).1.elapse (p.opening s).2 := by
  cases p with
  | finished outcome => rfl
  | clock time => rfl
  | call c form =>
    simp only [Progress.pass, Session.await, Progress.opening]
    cases s.due? c <;> rfl

theorem opening_bare (s : Session) (p : Progress) : p.bare.opening s = p.opening s := by
  cases p <;> rfl

/-- Sessions that wait for the same begin alike to do so, and wait as long. -/
theorem alike_opening {s t : Session} (h : s.Alike shared id t) {p q : Progress}
    (hpq : p.bare = q.bare) :
    (p.opening s).1.Alike shared id (q.opening t).1 ∧ (p.opening s).2 = (q.opening t).2 := by
  rw [← opening_bare s p, ← opening_bare t q, ← hpq]
  cases p with
  | finished outcome => exact ⟨h, rfl⟩
  | clock time => exact ⟨h, congrArg (time - ·) h.timeline.now⟩
  | call c form =>
    have hdue : s.due? c = t.due? c := by simp only [Session.due?, h.discoveries]
    simp only [Progress.bare, Progress.opening, ← hdue, h.timeline.now]
    cases s.due? c with
    | none => exact ⟨h.settle, rfl⟩
    | some due => exact ⟨(h.prefer c).settle, rfl⟩

theorem alike_setBaseUrl {s t : Session} (h : s.Alike shared id t) (text : String)
    (hbase : ∀ base ∈ (Turn.switch text).base?, Shares shared id base) :
    (begun s (.setBaseUrl text)).1.Alike shared id (begun t (.setBaseUrl text)).1 ∧
      (begun s (.setBaseUrl text)).2 = (begun t (.setBaseUrl text)).2 := by
  simp only [begun, begin, Session.setBaseUrl, ← h.dashboard]
  cases hd : s.dashboard.switch text with
  | error e => exact ⟨h, rfl⟩
  | ok d =>
    obtain ⟨hne, rfl⟩ := Dashboard.eq_of_switch hd
    have hshares : Shares shared id (Dashboard.baseOf text) :=
      hbase _ (by simp only [Turn.base?, if_neg hne, Option.mem_def])
    obtain ⟨hsent, hcall⟩ := (h.become (d := { s.dashboard with
      baseUrl := Dashboard.baseOf text, catalog := .pending, selection := []
      layoutVersion := s.dashboard.layoutVersion + 1 }) hshares true).forget.discover false
    exact ⟨hsent, congrArg (Progress.call · .plain) hcall⟩

theorem alike_select {s t : Session} (h : s.Alike shared id t) (raws : List String) :
    (begun s (.select raws)).1.Alike shared id (begun t (.select raws)).1 ∧
      (begun s (.select raws)).2 = (begun t (.select raws)).2 := by
  simp only [begun, begin, Session.select, ← h.dashboard]
  cases hd : s.dashboard.select raws with
  | error e => exact ⟨h, rfl⟩
  | ok d =>
    obtain ⟨streams, -, -, rfl⟩ := Dashboard.eq_of_select hd
    exact ⟨h.become (d := { s.dashboard with
      selection := StreamId.distinct (raws.map StreamId.parse)
      layoutVersion := s.dashboard.layoutVersion + 1 }) h.shares false, rfl⟩

/-- An action that is no request begins alike in both sessions. -/
theorem alike_operation {s t : Session} (h : s.Alike shared id t) (a : Action)
    (hhttp : ∀ r, a ≠ .http r) (hbase : ∀ base ∈ a.operationBase?, Shares shared id base) :
    (begun s a).1.Alike shared id (begun t a).1 ∧ (begun s a).2 = (begun t a).2 := by
  cases a with
  | serve url x => exact ⟨h.serve fun _ => rfl, rfl⟩
  | advance ms => exact ⟨h, congrArg (fun now => Progress.clock (now + ms)) h.timeline.now⟩
  | mount => exact ⟨(h.discover false).1, congrArg (Progress.call · .plain) (h.discover false).2⟩
  | rescan => exact ⟨(h.discover true).1, congrArg (Progress.call · .plain) (h.discover true).2⟩
  | setBaseUrl text => exact alike_setBaseUrl h text hbase
  | select raws => exact alike_select h raws
  | updateConfig patch => exact ⟨h.updateConfig patch, rfl⟩
  | http r => exact absurd rfl (hhttp r)
  | _ => exact ⟨h, rfl⟩

theorem alike_begin {s t : Session} (h : s.Alike shared id t) {a b : Action}
    (hab : a.Alike shared id b) :
    (begun s a).1.Alike shared id (begun t b).1 ∧ (begun s a).2 = (begun t b).2 := by
  cases hab with
  | apart url x y hs => exact ⟨h.serve fun hshared => absurd hshared (Bool.eq_false_iff.1 hs), rfl⟩
  | same a ha =>
    cases a with
    | http r =>
      rw [begun_http, begun_http]
      cases hr : ofRequest r with
      | none => exact ⟨h, rfl⟩
      | some a =>
        refine alike_operation h a (ofRequest_ne_http hr) fun base hb => ha base ?_
        rw [Action.base?, hr]
        exact hb
    | _ => exact alike_operation h _ (by simp) ha

theorem alike_during {s t : Session} (h : s.Alike shared id t) {a b : Action}
    (hab : a.Alike shared id b) (ms : Nat) :
    (during s a ms).Alike shared id (during t b ms) := by
  obtain ⟨hbegin, hbare⟩ := alike_begin h hab
  exact (alike_opening hbegin hbare).1.elapse ms

theorem alike_pass {s t : Session} (h : s.Alike shared id t) {p q : Progress}
    (hpq : p.bare = q.bare) : (p.pass s).Alike shared id (q.pass t) := by
  obtain ⟨hopening, hspan⟩ := alike_opening h hpq
  rw [pass_eq_elapse, pass_eq_elapse, ← hspan]
  exact hopening.elapse _

theorem alike_step {x y : State} (h : x.session.Alike shared id y.session) {a b : Step}
    (hab : a.Alike shared id b) :
    (step x a).1.session.Alike shared id (step y b).1.session := by
  obtain ⟨hbegin, hbare⟩ := alike_begin h hab.action
  unfold step
  rw [← hab.background]
  cases a.background with
  | some tag => exact hbegin.settle
  | none => exact (alike_pass hbegin hbare).settle

/-- A session after steps from its start. -/
def sessionOf (config : AppConfig) (start : Int) (steps : List Step) : Session :=
  (steps.foldl (fun x st => (step x st).1) { session := .new config start }).session

theorem alike_new (config : AppConfig) (start : Int)
    (h : Shares shared id (normalizeBase config.baseUrl)) :
    (Session.new config start).Alike shared id (.new config start) where
  dashboard := rfl
  discoveries := rfl
  calls := rfl
  shares := h
  timeline := .initial start

theorem alike_sessionOf (config : AppConfig) (start : Int) {steps others : List Step}
    (hbase : Shares shared id (normalizeBase config.baseUrl))
    (h : List.Forall₂ (Step.Alike shared id) steps others) :
    (sessionOf config start steps).Alike shared id (sessionOf config start others) := by
  refine List.rel_foldl (P := fun x y : State => x.session.Alike shared id y.session) ?_
    (alike_new config start hbase) h
  intro x y hxy a b hab
  exact alike_step hxy hab

/-- Two runs do the same at the same times, but their backends give different answers, or none in
time, at addresses that are not shared.  If the targets have each stream at one address and the
stream `id` at shared ones, then at every moment the runs have sent the same requests to shared
addresses at the same times, and they have the same record and the same outcome of the stream.  So
do two sessions, also while an action is waited for, if the list of streams and the metadata of `id`
are at shared addresses of every backend that they turn to. -/
theorem agree_of_same_actions (shared : String → Bool) (id : StreamId) (start : Int) :
    (∀ actions others : List PollAction,
        List.Forall₂ (PollAction.Alike shared id) actions others → ∀ ms,
          ((timelineAfter start actions).elapse ms).Agree shared id
            ((timelineAfter start others).elapse ms)) ∧
      ∀ (config : AppConfig) (steps others : List Step) (a b : Action),
        Shares shared id (normalizeBase config.baseUrl) →
          List.Forall₂ (Step.Alike shared id) steps others → a.Alike shared id b → ∀ ms,
            (during (sessionOf config start steps) a ms).timeline.Agree shared id
              (during (sessionOf config start others) b ms).timeline := by
  refine ⟨fun actions others h ms => ?_, fun config steps others a b hbase h hab ms => ?_⟩
  · exact ((alike_timelineAfter start h).elapse ms).toAgree
  · exact (alike_during (alike_sessionOf config start hbase h) hab ms).timeline.toAgree

/-- The metadata of one stream is refused, or comes too late each time; the other stream is polled
at the same times. -/
theorem agree_beside_slow_stream :
    let url := "http://a/meta/y/main"
    let shared (other : String) := other != url
    let found : Answer := { body := "[\"x\",\"y\"]".toUTF8.toList }
    let refused : Answer := { status := 500 }
    let slow : Answer := { delay := 1000 }
    let update : PlanUpdate :=
      { running := true, interval := .ofMillis 5, timeout := .ofMillis 7, invalidate := false
        targets := [⟨.parse "x", "http://a/meta/x/main"⟩, ⟨.parse "y", url⟩] }
    let polled (a : Answer) : List PollAction := [.serve url a, .apply update]
    let shown (a : Answer) : List Step :=
      [⟨.serve "http://a/streams" found, none⟩, ⟨.serve url a, none⟩, ⟨.mount, none⟩]
    let t (a : Answer) := (timelineAfter 0 (polled a)).elapse 12
    let u (a : Answer) :=
      (during (sessionOf { baseUrl := "http://a" } 0 (shown a)) (.advance 2) 2).timeline
    ((t slow).Agree shared (.parse "x/main") (t refused) ∧
        (t slow).log.map (·.time) = [10, 10, 5, 0, 0] ∧
        (t refused).log.map (·.time) = [10, 10, 5, 5, 0, 0]) ∧
      (u slow).Agree shared (.parse "x/main") (u refused) ∧
        (u slow).stores.board.get? (.parse "y") = none ∧
        ((u refused).stores.board.get? (.parse "y")).isSome = true := by
  intro url shared found refused slow update polled shown
  dsimp only
  obtain ⟨hpolled, hshown⟩ := agree_of_same_actions shared (.parse "x/main") 0
  have hupdate : Located shared (.parse "x/main") update.targets := by
    constructor <;> decide +kernel
  have hactions : List.Forall₂ (PollAction.Alike shared (.parse "x/main")) (polled slow)
      (polled refused) :=
    .cons (.apart url slow refused (by decide +kernel))
      (.cons (.same _ fun u hu => PollAction.apply.inj hu ▸ hupdate) .nil)
  have hbase : Shares shared (.parse "x/main") (normalizeBase "http://a") :=
    ⟨by decide +kernel, by decide +kernel⟩
  have hsteps : List.Forall₂ (Step.Alike shared (.parse "x/main")) (shown slow) (shown refused) :=
    .cons ⟨.same _ (fun _ h => nomatch h), rfl⟩
      (.cons ⟨.apart url slow refused (by decide +kernel), rfl⟩
        (.cons ⟨.same _ (fun _ h => nomatch h), rfl⟩ .nil))
  have hadvance : Action.Alike shared (.parse "x/main") (.advance 2) (.advance 2) :=
    .same _ fun _ h => nomatch h
  exact ⟨⟨hpolled (polled slow) (polled refused) hactions 12, by decide +kernel, by decide +kernel⟩,
    hshown { baseUrl := "http://a" } (shown slow) (shown refused) (.advance 2) (.advance 2) hbase
      hsteps hadvance 2,
    by decide +kernel, by decide +kernel⟩

end Run

end VideoWall
