import VideoWall.Poller

/-!
# Generations and the fetches under way

Plans are asked for, turned to, carried out and answered in any order.  A new generation begins
whenever what was asked for before is no longer wanted, so plans of one generation have equal
targets, and within a generation polling is resumed but never paused: that is `Plan.LeadsTo`.

    p.LeadsTo (p.update u)                                                 (Plan.leadsTo_update)
    tick starts a fetch for one target after another, unless one is under way      (inFlight_tick)
    at most one fetch of each stream is under way, each one that the plan in force wants
                                                                  (one_wanted_fetch_per_stream)
-/

namespace VideoWall

/-! ## Equal targets -/

theorem Target.beq_iff {a b : Target} :
    (a == b) = true ↔ (a.stream == b.stream) = true ∧ a.metaUrl = b.metaUrl := by
  simp [BEq.beq]

instance : EquivBEq Target where
  rfl := by
    intro a
    exact Target.beq_iff.2 ⟨BEq.rfl, rfl⟩
  symm := by
    intro a b h
    obtain ⟨hs, hu⟩ := Target.beq_iff.1 h
    exact Target.beq_iff.2 ⟨BEq.symm hs, hu.symm⟩
  trans := by
    intro a b c h k
    obtain ⟨hs, hu⟩ := Target.beq_iff.1 h
    obtain ⟨ks, ku⟩ := Target.beq_iff.1 k
    exact Target.beq_iff.2 ⟨BEq.trans hs ks, hu.trans ku⟩

theorem Target.exists_beq_of_mem {l k : List Target} (h : (l == k) = true) {t : Target}
    (ht : t ∈ l) : ∃ u ∈ k, (u == t) = true := by
  induction l generalizing k with
  | nil => cases ht
  | cons a l ih =>
    cases k with
    | nil => simp at h
    | cons b k =>
      simp only [List.cons_beq_cons, Bool.and_eq_true] at h
      rcases List.mem_cons.1 ht with rfl | ht
      · exact ⟨b, List.mem_cons_self, BEq.symm h.1⟩
      · obtain ⟨u, hu, hut⟩ := ih h.2 ht
        exact ⟨u, List.mem_cons_of_mem b hu, hut⟩

theorem Target.beq_list_trans {l k m : List Target} (h : (l == k) = true) (g : (k == m) = true) :
    (l == m) = true := by
  induction l generalizing k m with
  | nil =>
    cases k with
    | nil => exact g
    | cons b k => simp at h
  | cons a l ih =>
    cases k with
    | nil => simp at h
    | cons b k =>
      cases m with
      | nil => simp at g
      | cons c m =>
        simp only [List.cons_beq_cons, Bool.and_eq_true] at h g ⊢
        exact ⟨BEq.trans h.1 g.1, ih h.2 g.2⟩

/-! ## Plans of one generation -/

/-- Whether the plan polls this target: it runs, and it has a target of the same stream at the same
address. -/
def Plan.Wants (p : Plan) (t : Target) : Prop :=
  p.running = true ∧ ∃ u ∈ p.targets, (u.stream == t.stream) = true ∧ u.metaUrl = t.metaUrl

/-- What updates may make of the plan `p`. -/
structure Plan.LeadsTo (p q : Plan) : Prop where
  generation_le : p.generation ≤ q.generation
  targets : p.generation = q.generation → (p.targets == q.targets) = true
  running : p.generation = q.generation → p.running = true → q.running = true

namespace Plan

theorem LeadsTo.refl (p : Plan) : p.LeadsTo p where
  generation_le := Nat.le_refl _
  targets := by simp
  running := fun _ h => h

theorem LeadsTo.trans {p q r : Plan} (h : p.LeadsTo q) (k : q.LeadsTo r) : p.LeadsTo r := by
  have hle := h.generation_le
  have kle := k.generation_le
  refine ⟨by omega, fun e => ?_, fun e hr => ?_⟩
  · exact Target.beq_list_trans (h.targets (by omega)) (k.targets (by omega))
  · exact k.running (by omega) (h.running (by omega) hr)

/-- Whether the update invalidates, pauses or retargets the plan. -/
def Drops (p : Plan) (u : PlanUpdate) : Prop :=
  u.invalidate = true ∨ (p.running = true ∧ u.running = false) ∨ (p.targets == u.targets) = false

/-- An update that drops what was asked for begins a new generation. -/
theorem generation_update_of_drops {p : Plan} {u : PlanUpdate} (h : p.Drops u) :
    (p.update u).generation = p.generation + 1 := by
  rcases h with h | ⟨hp, hu⟩ | h
  · simp [update, h]
  · simp [update, hp, hu]
  · simp [update, bne, h]

theorem leadsTo_update (p : Plan) (u : PlanUpdate) : p.LeadsTo (p.update u) := by
  by_cases h : p.Drops u
  · have hg := generation_update_of_drops h
    exact ⟨by omega, fun e => by omega, fun e => by omega⟩
  · simp only [Drops, not_or, not_and, Bool.not_eq_true, Bool.not_eq_false] at h
    obtain ⟨hi, hr, ht⟩ := h
    refine ⟨?_, fun _ => ht, fun _ => hr⟩
    simp only [update]
    split <;> omega

theorem Wants.of_leadsTo {p q : Plan} (h : p.LeadsTo q) (hg : p.generation = q.generation)
    {t : Target} (hw : p.Wants t) : q.Wants t := by
  obtain ⟨hr, u, hu, hs, hm⟩ := hw
  obtain ⟨v, hv, hvu⟩ := Target.exists_beq_of_mem (h.targets hg) hu
  obtain ⟨hvs, hvm⟩ := Target.beq_iff.1 hvu
  exact ⟨h.running hg hr, v, hv, BEq.trans hvs hs, hvm.trans hm⟩

/-- Whether the fetch can have been sent under this plan or under one that led to it. -/
structure Covers (p : Plan) (f : Fetch) : Prop where
  generation_le : f.generation ≤ p.generation
  wants : f.generation = p.generation → p.Wants f.target

theorem Covers.of_leadsTo {p q : Plan} (h : p.LeadsTo q) {f : Fetch} (hc : p.Covers f) :
    q.Covers f := by
  have hle := hc.generation_le
  have hpq := h.generation_le
  refine ⟨by omega, fun e => ?_⟩
  exact (hc.wants (by omega)).of_leadsTo h (by omega)

end Plan

/-! ## One fetch for each stream -/

namespace StreamId

variable {α : Type} {stream : α → StreamId}

theorem mem_of_mem_distinctBy {l : List α} {a : α} (h : a ∈ distinctBy stream l) : a ∈ l := by
  induction l with
  | nil => exact h
  | cons b l ih =>
    rcases List.mem_cons.1 h with rfl | h
    · exact List.mem_cons_self
    · exact List.mem_cons_of_mem b (ih (List.mem_filter.1 h).1)

/-- Leaving out whole streams and leaving out repetitions may be done in either order. -/
theorem distinctBy_filter {keep : α → Bool} {l : List α}
    (hk : ∀ a ∈ l, ∀ b ∈ l, (stream a == stream b) = true → keep a = keep b) :
    distinctBy stream (l.filter keep) = (distinctBy stream l).filter keep := by
  induction l with
  | nil => rfl
  | cons a l ih =>
    have htail := ih fun b hb c hc =>
      hk b (List.mem_cons_of_mem a hb) c (List.mem_cons_of_mem a hc)
    by_cases ha : keep a = true
    · simp only [List.filter_cons, ha, if_true, distinctBy, htail, List.filter_filter,
        Bool.and_comm]
    · have hdrop : ∀ b ∈ l, keep b = true → (stream b == stream a) = false := by
        intro b hl hb
        cases hba : stream b == stream a with
        | false => rfl
        | true => exact absurd (hk b (List.mem_cons_of_mem a hl) a List.mem_cons_self hba ▸ hb) ha
      simp only [List.filter_cons, ha, distinctBy, htail, List.filter_filter, Bool.false_eq_true,
        if_false]
      refine List.filter_congr fun b hmem => ?_
      cases hb : keep b with
      | false => rfl
      | true => simp [hdrop b (mem_of_mem_distinctBy hmem) hb]

theorem distinctBy_cons_of_not_mem (a : α) (l : List α) :
    distinctBy stream (a :: l) =
      a :: distinctBy stream (l.filter fun b => !(stream b == stream a)) := by
  rw [distinctBy, distinctBy_filter]
  intro b _ c _ h
  rw [BEq.congr_left h]

end StreamId

namespace Poller

/-- What can happen to a poller. -/
inductive Event where
  | apply (u : PlanUpdate)
  | adopt (now : Nat)
  | tick (send : Target → Reply) (now : Nat)
  | collect (now : Nat)

def next (p : Poller) : Event → Poller
  | .apply u => p.apply u
  | .adopt now => p.adopt now
  | .tick send now => p.tick send now
  | .collect now => p.collect now

/-- The poller after events in any order. -/
def run (p : Poller) (es : List Event) : Poller := es.foldl next p

theorem plan_adopt (p : Poller) (now : Nat) : (p.adopt now).plan = p.plan := by
  unfold adopt
  split <;> rfl

theorem leadsTo_next (p : Poller) (e : Event) : p.plan.LeadsTo (p.next e).plan := by
  cases e with
  | apply u => exact p.plan.leadsTo_update u
  | adopt now =>
    show p.plan.LeadsTo (p.adopt now).plan
    rw [plan_adopt]
    exact .refl _
  | tick send now => exact .refl _
  | collect now => exact .refl _

/-! ### The loop over the targets -/

/-- What the timer does about one target: nothing while its stream is being fetched. -/
def start (send : Target → Reply) (generation : Nat) (fs : List Fetch) (t : Target) : List Fetch :=
  if fs.any (·.target.stream == t.stream) then fs else fs ++ [⟨t, generation, send t⟩]

theorem foldl_start (send : Target → Reply) (generation : Nat) (ts : List Target)
    (fs : List Fetch) :
    ts.foldl (start send generation) fs =
      fs ++ (StreamId.distinctBy (·.stream)
        (ts.filter fun t => !fs.any (·.target.stream == t.stream))).map
          fun t => ⟨t, generation, send t⟩ := by
  induction ts generalizing fs with
  | nil => simp [StreamId.distinctBy]
  | cons t ts ih =>
    rw [List.foldl_cons, ih, start]
    by_cases hb : fs.any (·.target.stream == t.stream) = true
    · simp [hb]
    · simp only [hb, Bool.false_eq_true, if_false, List.filter_cons, Bool.not_false, if_true,
        StreamId.distinctBy_cons_of_not_mem, List.filter_filter]
      simp only [List.map_cons, List.append_assoc, List.singleton_append]
      congr 4
      refine List.filter_congr fun u _ => ?_
      simp [Bool.and_comm, BEq.comm]

/-- The timer goes through the targets of the plan one after another. -/
theorem inFlight_tick (p : Poller) (send : Target → Reply) (now : Nat) :
    (p.tick send now).inFlight =
      if p.adopted.running then
        p.adopted.targets.foldl (start send p.adopted.generation) p.inFlight
      else p.inFlight := by
  simp only [tick, started, wanted, foldl_start, isBusy]
  split <;> simp

/-! ### What every event keeps -/

/-- The fetches under way are those of the plan that is being carried out, at most one for each
stream, and that plan has led to the latest. -/
structure Consistent (p : Poller) : Prop where
  leads : p.adopted.LeadsTo p.plan
  wanted : ∀ f ∈ p.inFlight, f.generation = p.adopted.generation ∧ p.adopted.Wants f.target
  distinct : p.inFlight.Pairwise fun f g => (f.target.stream == g.target.stream) = false

theorem consistent_initial : Consistent {} where
  leads := .refl _
  wanted := by simp
  distinct := .nil

theorem Consistent.apply {p : Poller} (h : p.Consistent) (u : PlanUpdate) :
    (p.apply u).Consistent where
  leads := h.leads.trans (p.plan.leadsTo_update u)
  wanted := h.wanted
  distinct := h.distinct

/-- A plan under which the fetches go on is of their generation and runs, so it wants them too. -/
theorem Consistent.adopt {p : Poller} (h : p.Consistent) (now : Nat) :
    (p.adopt now).Consistent := by
  unfold Poller.adopt
  cases p.ticker with
  | none => exact h
  | some ticker =>
    refine ⟨.refl _, ?_, ?_⟩
    · intro f hf
      by_cases hc : p.cancels = true
      · simp [hc] at hf
      · simp only [hc, Bool.false_eq_true, if_false] at hf
        have hg : p.adopted.generation = p.plan.generation := by
          simp only [cancels, bne, Bool.or_eq_true, not_or] at hc
          have := hc.1
          simp only [Bool.not_eq_true', Bool.not_eq_false, beq_iff_eq] at this
          exact this.symm
        obtain ⟨hfg, hw⟩ := h.wanted f hf
        exact ⟨hfg.trans hg, hw.of_leadsTo h.leads hg⟩
    · by_cases hc : p.cancels = true
      · simp [hc]
      · simpa [hc] using h.distinct

theorem Consistent.collect {p : Poller} (h : p.Consistent) (now : Nat) :
    (p.collect now).Consistent where
  leads := h.leads
  wanted := fun f hf => h.wanted f (List.mem_filter.1 hf).1
  distinct := h.distinct.filter _

theorem pairwise_start {send : Target → Reply} {generation : Nat} {fs : List Fetch} (t : Target)
    (h : fs.Pairwise fun f g => (f.target.stream == g.target.stream) = false) :
    (start send generation fs t).Pairwise
      fun f g => (f.target.stream == g.target.stream) = false := by
  unfold start
  split
  · exact h
  · next hb =>
    simp only [List.any_eq_true, not_exists, not_and, Bool.not_eq_true] at hb
    exact List.pairwise_append.2 ⟨h, List.pairwise_singleton _ _, by simpa using hb⟩

theorem mem_targets_of_mem_wanted {p : Poller} {t : Target} (h : t ∈ p.wanted) :
    p.adopted.running = true ∧ t ∈ p.adopted.targets := by
  unfold Poller.wanted at h
  split at h
  · next hr => exact ⟨hr, (List.mem_filter.1 (StreamId.mem_of_mem_distinctBy h)).1⟩
  · cases h

/-- The timer starts only fetches that the plan in force wants. -/
theorem wanted_of_mem_started {p : Poller} {send : Target → Reply} {f : Fetch}
    (h : f ∈ p.started send) :
    f.generation = p.adopted.generation ∧ p.adopted.Wants f.target := by
  obtain ⟨t, ht, rfl⟩ := List.mem_map.1 h
  obtain ⟨hr, hm⟩ := mem_targets_of_mem_wanted ht
  exact ⟨rfl, hr, t, hm, BEq.rfl, rfl⟩

theorem Consistent.tick {p : Poller} (h : p.Consistent) (send : Target → Reply) (now : Nat) :
    (p.tick send now).Consistent := by
  refine ⟨h.leads, fun f hf => ?_, ?_⟩
  · rcases List.mem_append.1 hf with hf | hf
    · exact h.wanted f hf
    · exact wanted_of_mem_started (p := p) hf
  · rw [inFlight_tick]
    split
    · refine List.foldlRecOn _ _ h.distinct fun fs hfs t _ => ?_
      exact pairwise_start t hfs
    · exact h.distinct

theorem Consistent.next {p : Poller} (h : p.Consistent) (e : Event) : (p.next e).Consistent := by
  cases e with
  | apply u => exact h.apply u
  | adopt now => exact h.adopt now
  | tick send now => exact h.tick send now
  | collect now => exact h.collect now

theorem Consistent.run {p : Poller} (h : p.Consistent) (es : List Event) :
    (p.run es).Consistent := by
  induction es generalizing p with
  | nil => exact h
  | cons e es ih => exact ih (h.next e)

/-- Whatever has happened, at most one fetch of each stream is under way, and the fetches under way
are of the generation of the plan that is being carried out, for targets that it has: there is none
if it does not run.  That plan is the latest one whenever a poller whose timer is alive has turned
to it. -/
theorem one_wanted_fetch_per_stream (es : List Event) :
    let p := Poller.run {} es
    (p.inFlight.Pairwise fun f g => (f.target.stream == g.target.stream) = false) ∧
      (∀ f ∈ p.inFlight, f.generation = p.adopted.generation ∧
        ∃ t ∈ p.adopted.targets,
          (t.stream == f.target.stream) = true ∧ t.metaUrl = f.target.metaUrl) ∧
      (p.adopted.running = false → p.inFlight = []) ∧
      ∀ now, p.ticker.isSome = true → (p.adopt now).adopted = p.plan := by
  intro p
  have hp : p.Consistent := consistent_initial.run es
  refine ⟨hp.distinct, fun f hf => ?_, fun hr => ?_, fun now ht => ?_⟩
  · obtain ⟨hg, -, hw⟩ := hp.wanted f hf
    exact ⟨hg, hw⟩
  · refine List.eq_nil_iff_forall_not_mem.2 fun f hf => ?_
    have hrunning := (hp.wanted f hf).2.1
    rw [hr] at hrunning
    cases hrunning
  · obtain ⟨ticker, ht⟩ := Option.isSome_iff_exists.1 ht
    simp only [Poller.adopt, ht]

end Poller

end VideoWall
