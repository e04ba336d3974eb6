import VideoWall.Proofs.Moments
import VideoWall.Run.Polling

/-!
# The polls of a run

The poller does what is due at certain moments: after every action, and in every millisecond that
passes.  At each of them fetches are sent and fetches end.

    the requests of a run are those of the fetches that are sent               (log_timeline)
    what each moment of a run preserves is preserved by the run         (moments_of_follows)
-/

namespace VideoWall

/-- A fetch at the time when it is sent, or when it ends. -/
structure Mark where
  time : Nat
  fetch : Fetch

namespace Mark

def request (a : Mark) : Request := ⟨a.time, a.fetch.target.metaUrl⟩

def due (a : Mark) : Nat := a.fetch.reply.due

/-- The end of a fetch that was sent. -/
def ending (a : Mark) : Mark := ⟨a.due, a.fetch⟩

/-- Whether the fetch is of this stream. -/
def concerns (id : StreamId) (a : Mark) : Bool := a.fetch.target.stream == id

end Mark

namespace Timeline

/-- The fetches that the timer starts if it has run out. -/
def fired (t : Timeline) : List Fetch :=
  if t.poller.isDue t.now then
    t.poller.started fun target => t.ask target.metaUrl t.poller.adopted.timeout
  else []

/-- The fetches that are sent when all happens that is due. -/
def sent (t : Timeline) : List Mark := t.adopt.deliver.fired.map fun f => ⟨t.now, f⟩

/-- The fetches that end when all happens that is due. -/
def ended (t : Timeline) : List Mark :=
  (t.adopt.poller.answered t.now ++ t.adopt.deliver.tickIfDue.poller.answered t.now).map
    fun f => ⟨t.now, f⟩

theorem inFlight_tickIfDue (t : Timeline) :
    t.tickIfDue.poller.inFlight = t.poller.inFlight ++ t.fired := by
  unfold tickIfDue fired
  split
  · rfl
  · exact (List.append_nil _).symm

theorem log_settle_sent (t : Timeline) :
    t.settle.log = (t.sent.map Mark.request).reverse ++ t.log := by
  have hlog : t.settle.log = t.adopt.deliver.tickIfDue.log := rfl
  rw [hlog, sent, fired, tickIfDue]
  split
  · simp only [tick, note, Poller.started, List.map_map]
    rfl
  · rfl

/-- The fetches that are under way at a moment: those from before and those that are sent then. -/
def underWay (t : Timeline) : List Fetch := t.adopt.poller.inFlight ++ t.adopt.deliver.fired

theorem inFlight_settle (t : Timeline) :
    t.settle.poller.inFlight = t.underWay.filter fun f => !(f.reply.due ≤ t.now) := by
  have hsettle : t.settle.poller.inFlight =
      t.adopt.deliver.tickIfDue.poller.inFlight.filter
        fun f => !(f.reply.due ≤ t.adopt.deliver.tickIfDue.now) := rfl
  have hdeliver : t.adopt.deliver.poller.inFlight =
      t.adopt.poller.inFlight.filter fun f => !(f.reply.due ≤ t.now) := rfl
  have hnow : t.adopt.deliver.now = t.now := rfl
  simp only [hsettle, now_tickIfDue, inFlight_tickIfDue, hdeliver, hnow, underWay,
    List.filter_append, List.filter_filter, Bool.and_self]

theorem ended_eq (t : Timeline) :
    t.ended = (t.underWay.filter fun f => f.reply.due ≤ t.now).map fun f => ⟨t.now, f⟩ := by
  have hdeliver : t.adopt.deliver.poller.inFlight =
      t.adopt.poller.inFlight.filter fun f => !(f.reply.due ≤ t.now) := rfl
  have hnone (l : List Fetch) :
      (l.filter fun f => !(f.reply.due ≤ t.now)).filter (fun f => f.reply.due ≤ t.now) = [] := by
    simp [List.filter_filter]
  simp only [ended, Poller.answered, inFlight_tickIfDue, hdeliver, underWay, List.filter_append,
    hnone, List.nil_append]

/-- Whether `u` is a moment right after `t`, or at the same time, with the poller as it was. -/
structure Follows (t u : Timeline) : Prop where
  poller : u.poller = t.poller
  le : t.now ≤ u.now
  le_succ : u.now ≤ t.now + 1

/-- The moments at which the poller does what is due while time passes. -/
def moments : Nat → Timeline → List Timeline
  | 0, _ => []
  | ms + 1, t => { t with now := t.now + 1 } :: moments ms t.step

end Timeline

namespace Run

/-- A poller after further actions. -/
def timeline (t : Timeline) (actions : List PollAction) : Timeline :=
  actions.foldl (fun t a => (pollStep t a).1) t

/-- A poller after actions from the start of the clock. -/
def timelineAfter (start : Int) (actions : List PollAction) : Timeline := timeline { start } actions

/-- The moments at which the poller does what is due. -/
def PollAction.moments (t : Timeline) : PollAction → List Timeline
  | advance ms => t.moments ms ++ [t.elapse ms]
  | a => [(a.perform t).1]

def moments (t : Timeline) : List PollAction → List Timeline
  | [] => []
  | a :: as => a.moments t ++ moments (pollStep t a).1 as

/-- The fetches that are sent in the course of actions. -/
def sent (t : Timeline) (actions : List PollAction) : List Mark :=
  (moments t actions).flatMap Timeline.sent

/-- The fetches that end in the course of actions. -/
def ended (t : Timeline) (actions : List PollAction) : List Mark :=
  (moments t actions).flatMap Timeline.ended

theorem log_elapse (t : Timeline) (ms : Nat) :
    (t.elapse ms).log =
      (((t.moments ms).flatMap Timeline.sent).map Mark.request).reverse ++ t.log := by
  induction ms generalizing t with
  | zero => rfl
  | succ ms ih =>
    have hstep : t.step.log =
        (({ t with now := t.now + 1 } : Timeline).sent.map Mark.request).reverse ++ t.log :=
      Timeline.log_settle_sent _
    simp only [Timeline.elapse, Timeline.moments, ih, hstep, List.flatMap_cons, List.map_append,
      List.reverse_append, List.append_assoc]

theorem log_pollStep (t : Timeline) (a : PollAction) :
    (pollStep t a).1.log =
      (((a.moments t).flatMap Timeline.sent).map Mark.request).reverse ++ t.log := by
  have hsettle : (pollStep t a).1.log =
      ((a.perform t).1.sent.map Mark.request).reverse ++ (a.perform t).1.log :=
    Timeline.log_settle_sent _
  rw [hsettle]
  cases a with
  | advance ms =>
    simp only [PollAction.perform, PollAction.moments, log_elapse, List.flatMap_append,
      List.flatMap_singleton, List.map_append, List.reverse_append, List.append_assoc]
  | _ => simp only [PollAction.perform, PollAction.moments, List.flatMap_singleton] <;> rfl

/-- Requests are sent for the fetches that are sent, and for nothing else. -/
theorem log_timeline (t : Timeline) (actions : List PollAction) :
    (timeline t actions).log = ((sent t actions).map Mark.request).reverse ++ t.log := by
  induction actions generalizing t with
  | nil => rfl
  | cons a actions ih =>
    have hrest : (timeline t (a :: actions)).log =
        ((sent (pollStep t a).1 actions).map Mark.request).reverse ++ (pollStep t a).1.log := ih _
    rw [hrest, log_pollStep]
    simp only [sent, moments, List.flatMap_append, List.map_append, List.reverse_append,
      List.append_assoc]

theorem consistent_settle {t : Timeline} (h : t.poller.Consistent) :
    t.settle.poller.Consistent := by
  obtain ⟨es, hes⟩ := t.poller_settle
  rw [hes]
  exact h.run es

theorem consistent_elapse {t : Timeline} (h : t.poller.Consistent) (ms : Nat) :
    (t.elapse ms).poller.Consistent := by
  induction ms generalizing t with
  | zero => exact h
  | succ ms ih => exact ih (consistent_settle h)

theorem consistent_timeline {t : Timeline} (h : t.poller.Consistent)
    (actions : List PollAction) : (timeline t actions).poller.Consistent := by
  refine List.foldlRecOn (motive := fun t : Timeline => t.poller.Consistent) actions _ h
    fun t ht a _ => consistent_settle ?_
  cases a with
  | advance ms => exact consistent_elapse ht ms
  | apply u => exact ht.apply u
  | _ => exact ht

section Moments

variable {P : Timeline → List Timeline → Prop}
  (hP : ∀ {t u : Timeline} {ts : List Timeline}, P t ts → t.Follows u → P u.settle (ts ++ [u]))

include hP

theorem elapse_of_follows (ms : Nat) {t : Timeline} {ts : List Timeline} (h : P t ts) :
    P (t.elapse ms) (ts ++ t.moments ms) := by
  induction ms generalizing t ts with
  | zero => simpa only [Timeline.elapse, Timeline.moments, List.append_nil] using h
  | succ ms ih =>
    have hfollows : t.Follows { t with now := t.now + 1 } :=
      ⟨rfl, Nat.le_succ _, Nat.le_refl _⟩
    have hrest := ih (hP h hfollows)
    rw [List.append_assoc] at hrest
    exact hrest

/-- Actions that leave the plan as it is leave the poller as it is, until it does what is due. -/
theorem moments_of_follows {plan : Plan} (hplan : ∀ {t ts}, P t ts → t.poller.plan = plan)
    {actions : List PollAction} (hsame : ∀ u, .apply u ∈ actions → plan.update u = plan)
    {t : Timeline} {ts : List Timeline} (h : P t ts) :
    P (timeline t actions) (ts ++ moments t actions) := by
  induction actions generalizing t ts with
  | nil => simpa only [timeline, moments, List.foldl_nil, List.append_nil] using h
  | cons a actions ih =>
    have hstep : P (pollStep t a).1 (ts ++ a.moments t) := by
      have hstill {u : Timeline} (hpoller : u.poller = t.poller) (hnow : u.now = t.now) :
          P u.settle (ts ++ [u]) := hP h ⟨hpoller, by omega, by omega⟩
      cases a with
      | advance ms =>
        have hlast := hP (elapse_of_follows hP ms h) ⟨rfl, Nat.le_refl _, Nat.le_succ _⟩
        rw [List.append_assoc] at hlast
        exact hlast
      | apply u =>
        refine hstill ?_ rfl
        show { t.poller with plan := t.poller.plan.update u } = t.poller
        rw [hplan h, hsame u List.mem_cons_self, ← hplan h]
      | serve url answer => exact hstill rfl rfl
      | store action => exact hstill rfl rfl
      | inspect ids => exact hstill rfl rfl
    have hrest := ih (fun u hu => hsame u (List.mem_cons_of_mem a hu)) hstep
    rw [List.append_assoc] at hrest
    exact hrest

end Moments

end Run

end VideoWall
