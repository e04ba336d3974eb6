import VideoWall.Proofs.Discoveries

/-!
# When nothing more is due

All that is due at a moment happens at once.  After that nothing is due any more at that moment: the
latest plan has been turned to, what was answered has been taken out, and the timer is set to fire
later.  To let happen what is due once more, at the same moment, changes nothing.

    a poller that has turned to its plan stays as it is                  (Poller.Turned.adopt_eq)
    what is due has happened after a first time              (Timeline.still_settle, settle_settle)
-/

namespace VideoWall

namespace Poller

/-- Whether the poller has turned to its latest plan, unless polling has ended.  Nothing is under
way then if the plan does not run. -/
def Turned (p : Poller) : Prop :=
  p.ticker.isSome = true →
    p.adopted = p.plan ∧ (p.plan.running = false → p.inFlight = [])

theorem turned_adopt (p : Poller) (now : Nat) : (p.adopt now).Turned := by
  intro halive
  cases hticker : p.ticker with
  | none =>
    simp only [adopt, hticker] at halive
    cases halive
  | some ticker =>
    have hadopt : p.adopt now =
        { plan := p.plan, adopted := p.plan
          ticker := if p.restarts then Ticker.start? p.plan.interval now else some ticker
          inFlight := if p.cancels then [] else p.inFlight } := by
      simp only [adopt, hticker]
    rw [hadopt]
    refine ⟨rfl, fun hrunning => ?_⟩
    have hcancels : p.cancels = true := by
      rw [cancels, Bool.or_eq_true]
      exact .inr (congrArg not hrunning)
    exact if_pos hcancels

theorem Turned.adopt_eq {p : Poller} (h : p.Turned) (now : Nat) : p.adopt now = p := by
  obtain ⟨plan, adopted, ticker, inFlight⟩ := p
  cases ticker with
  | none => rfl
  | some ticker =>
    obtain ⟨hadopted, hnone⟩ := h rfl
    change adopted = plan at hadopted
    change plan.running = false → inFlight = [] at hnone
    subst hadopted
    have hrestarts : restarts ⟨adopted, adopted, some ticker, inFlight⟩ = false := by
      simp [restarts]
    have hkept : (if cancels ⟨adopted, adopted, some ticker, inFlight⟩ then [] else inFlight) =
        inFlight := by
      cases hrunning : adopted.running with
      | true => simp [cancels, hrunning]
      | false => simp [hnone hrunning]
    simp only [adopt, hrestarts, hkept, Bool.false_eq_true, if_false]

theorem wanted_of_paused {p : Poller} (h : p.adopted.running = false) : p.wanted = [] := by
  rw [wanted, h, if_neg Bool.false_ne_true]

theorem Turned.collect {p : Poller} (h : p.Turned) (now : Nat) : (p.collect now).Turned := by
  intro halive
  obtain ⟨hadopted, hnone⟩ := h halive
  refine ⟨hadopted, fun hrunning => ?_⟩
  show p.inFlight.filter _ = []
  rw [hnone hrunning, List.filter_nil]

theorem Turned.tick {p : Poller} (h : p.Turned) (send : Target → Reply) (now : Nat) :
    (p.tick send now).Turned := by
  intro halive
  obtain ⟨hadopted, hnone⟩ := h (by simpa [Poller.tick] using halive)
  refine ⟨hadopted, fun hrunning => ?_⟩
  have hpaused : p.adopted.running = false := by rw [hadopted]; exact hrunning
  show p.inFlight ++ p.started send = []
  rw [started, wanted_of_paused hpaused, hnone hrunning]
  rfl

end Poller

namespace Timeline

/-- Whether nothing more is due at this moment. -/
structure Still (t : Timeline) : Prop where
  adopt : t.adopt = t
  deliver : t.deliver = t
  isDue : t.poller.isDue t.now = false

theorem Still.settle {t : Timeline} (h : t.Still) : t.settle = t := by
  rw [Timeline.settle, h.adopt, h.deliver, tickIfDue, h.isDue, if_neg Bool.false_ne_true, h.deliver]

theorem deliver_deliver (t : Timeline) : t.deliver.deliver = t.deliver := by
  have hnone : t.deliver.poller.answered t.now = [] := by
    simp [deliver, Poller.answered, Poller.collect, List.filter_filter]
  have hkept : t.deliver.poller.collect t.now = t.deliver.poller := by
    simp [deliver, Poller.collect, List.filter_filter]
  calc t.deliver.deliver
      = { t.deliver with
          poller := t.deliver.poller.collect t.now
          stores := (t.deliver.poller.answered t.now).foldl
            (fun s f => f.store (t.deliver.poller.isCurrent f) t.instant s)
            t.deliver.stores } := rfl
    _ = t.deliver := by
        rw [hkept, hnone]
        rfl

theorem turned_settle (t : Timeline) : t.settle.poller.Turned := by
  have hadopted : t.adopt.deliver.poller.Turned := (t.poller.turned_adopt t.now).collect t.now
  have hticked : t.adopt.deliver.tickIfDue.poller.Turned := by
    unfold tickIfDue
    split
    · exact hadopted.tick _ _
    · exact hadopted
  exact hticked.collect _

/-- The timer is set to fire a period later, which is not nothing. -/
theorem isDue_settle (t : Timeline) : t.settle.poller.isDue t.settle.now = false := by
  rw [now_settle, Poller.isDue, ticker_settle]
  split
  · cases t.adopt.poller.ticker with
    | none => rfl
    | some ticker =>
      have hpos := ticker.period_pos
      simp only [Option.map_some, Option.any_some, Ticker.rearm, decide_eq_false_iff_not]
      omega
  · next hdue => exact Bool.eq_false_iff.2 hdue

theorem still_settle (t : Timeline) : t.settle.Still where
  adopt := by
    show { t.settle with poller := t.settle.poller.adopt t.settle.now } = t.settle
    rw [(turned_settle t).adopt_eq]
  deliver := deliver_deliver _
  isDue := isDue_settle t

end Timeline

namespace Session

theorem discoveries_foldl_finish (ds : List Discovery) (s : Session) :
    (ds.foldl finish s).discoveries = s.discoveries := by
  induction ds generalizing s with
  | nil => rfl
  | cons d ds ih =>
    rw [List.foldl_cons, ih, Turn.discoveries_finish]

theorem now_foldl_finish (ds : List Discovery) (s : Session) :
    (ds.foldl finish s).timeline.now = s.timeline.now := by
  induction ds generalizing s with
  | nil => rfl
  | cons d ds ih =>
    rw [List.foldl_cons, ih, Turn.timeline_finish]
    split <;> rfl

/-- Whether nothing more is due at this moment, neither an answer nor anything of the poller. -/
structure Still (s : Session) : Prop where
  timeline : s.timeline.Still
  discoveries : ∀ d ∈ s.discoveries, s.timeline.now < d.reply.due

theorem Still.settle {s : Session} (h : s.Still) : s.settle = s := by
  have hdue : s.discoveries.filter (·.reply.due ≤ s.timeline.now) = [] := by
    refine List.filter_eq_nil_iff.2 fun d hd => ?_
    have := h.discoveries d hd
    simp only [decide_eq_true_eq]
    omega
  have hlater : s.discoveries.filter (fun d => !(d.reply.due ≤ s.timeline.now)) =
      s.discoveries := by
    refine List.filter_eq_self.2 fun d hd => ?_
    have := h.discoveries d hd
    simp only [Bool.not_eq_true', decide_eq_false_iff_not]
    omega
  have hdeliver : s.deliver = s := by
    rw [deliver, hdue, hlater]
    rfl
  rw [Session.settle, hdeliver, h.timeline.settle]

theorem still_settle (s : Session) : s.settle.Still where
  timeline := s.deliver.timeline.still_settle
  discoveries := by
    intro d hd
    have hmem : d ∈ s.deliver.discoveries := hd
    have hnow : s.settle.timeline.now = s.timeline.now := by
      show s.deliver.timeline.settle.now = s.timeline.now
      rw [Timeline.now_settle, deliver, now_foldl_finish]
    rw [deliver, discoveries_foldl_finish, List.mem_filter] at hmem
    rw [hnow]
    simpa using hmem.2

end Session

end VideoWall
