import Mathlib.Data.List.Chain
import VideoWall.Proofs.Polls

/-!
# The pace of a stream

A timer that was started at `c` fires at ticks, every period from then on.  A stream keeps its pace
if it is polled at `c`, and after each poll at the first tick by which the poll has ended.

    no poll has to wait longer than a period, or than the timeout takes              (gap_le)
    a stream keeps its pace if it is polled whenever there is a tick and none is under way
                                                                 (Paced.wait, Paced.poll)
-/

namespace VideoWall

/-! ## Ticks -/

/-- Whether `r` is the first of the ticks every `p` milliseconds from `c` on that is after a poll
and not before its end. -/
structure Mark.Next (c p : Nat) (a : Mark) (r : Nat) : Prop where
  tick : ∃ k, r = c + k * p
  after : a.time < r
  ended : a.due ≤ r
  least : ∀ k, a.time < c + k * p → a.due ≤ c + k * p → r ≤ c + k * p

/-- The least multiple of the period that a time fits into. -/
def roundUp (limit p : Nat) : Nat := (limit + p - 1) / p * p

theorem le_roundUp {limit p : Nat} (hp : 0 < p) : limit ≤ roundUp limit p := by
  have hdiv := Nat.div_add_mod (limit + p - 1) p
  have hmod := Nat.mod_lt (limit + p - 1) hp
  rw [Nat.mul_comm] at hdiv
  unfold roundUp
  omega

/-- The gap after a poll at a tick is one period, or as many as its timeout takes. -/
theorem Mark.Next.gap_le {c p limit r : Nat} {a : Mark} (h : a.Next c p r) (hp : 0 < p)
    (htick : ∃ k, a.time = c + k * p) (hdue : a.due ≤ a.time + limit) :
    r - a.time ≤ max p (roundUp limit p) := by
  obtain ⟨k, hk⟩ := htick
  have hround : limit ≤ roundUp limit p := le_roundUp hp
  -- a tick that is late enough: the one after the poll, or the one after its timeout
  by_cases hle : roundUp limit p ≤ p
  · have hnext : c + (k + 1) * p = a.time + p := by
      rw [Nat.succ_mul]
      omega
    have hleast := h.least (k + 1) (by omega) (by omega)
    omega
  · have hnext : c + (k + (limit + p - 1) / p) * p = a.time + roundUp limit p := by
      rw [Nat.add_mul, roundUp]
      omega
    have hleast := h.least (k + (limit + p - 1) / p) (by omega) (by omega)
    omega

/-- Whether a timer fires at ticks every period from `c` on, and next at the first one to come. -/
structure Ticker.Beats (c now : Nat) (t : Ticker) : Prop where
  tick : ∃ k, t.next = c + k * t.period
  lt : now < t.next
  least : ∀ k, now < c + k * t.period → t.next ≤ c + k * t.period

theorem Ticker.beats_rearm (now : Nat) (t : Ticker) : (t.rearm now).Beats now now := by
  have hp := t.period_pos
  refine ⟨⟨1, by simp [rearm]⟩, by simp [rearm, hp], fun k hk => ?_⟩
  have hpos : 1 ≤ k := by
    rcases k with _ | k
    · simp at hk
    · omega
  have hmul := Nat.mul_le_mul_right t.period hpos
  simp only [rearm]
  omega

theorem Ticker.Beats.rearm {c now : Nat} {t : Ticker} (h : t.Beats c now) :
    (t.rearm t.next).Beats c t.next := by
  obtain ⟨j, hj⟩ := h.tick
  have hp := t.period_pos
  refine ⟨⟨j + 1, ?_⟩, by simp [Ticker.rearm, hp], fun k hk => ?_⟩
  · simp only [Ticker.rearm, Nat.succ_mul]
    omega
  · have hjk : j < k := by
      refine Nat.lt_of_not_le fun hle => ?_
      have hmul := Nat.mul_le_mul_right t.period hle
      simp only [Ticker.rearm] at hk
      omega
    have hmul := Nat.mul_le_mul_right t.period hjk
    rw [Nat.succ_mul] at hmul
    simp only [Ticker.rearm]
    omega

/-! ## Fetches under way -/

namespace Mark

/-- The fetch as long as it is under way. -/
def pending (now : Nat) (a : Mark) : List Fetch := if a.due ≤ now then [] else [a.fetch]

theorem filter_pending (a : Mark) {now later : Nat} (hle : now ≤ later) :
    (a.pending now).filter (fun f => !(f.reply.due ≤ later)) = a.pending later := by
  unfold pending due
  by_cases hnow : a.fetch.reply.due ≤ now
  · have hlater : a.fetch.reply.due ≤ later := Nat.le_trans hnow hle
    simp [hnow, hlater]
  · by_cases hlater : a.fetch.reply.due ≤ later <;> simp [hnow, hlater]

/-- A fetch that was under way a millisecond before ends when its end is due. -/
theorem ending_of_pending (a : Mark) {now later : Nat} (hle : now ≤ later)
    (hsucc : later ≤ now + 1) :
    ([a].filter fun b => b.due ≤ now).map ending ++
        ((a.pending now).filter fun f => f.reply.due ≤ later).map (fun f => ⟨later, f⟩) =
      ([a].filter fun b => b.due ≤ later).map ending := by
  unfold pending due
  by_cases hnow : a.fetch.reply.due ≤ now
  · have hlater : a.fetch.reply.due ≤ later := Nat.le_trans hnow hle
    simp [hnow, hlater]
  · by_cases hlater : a.fetch.reply.due ≤ later
    · have hdue : later = a.fetch.reply.due := by omega
      simp [hnow, hdue, ending, due]
    · simp [hnow, hlater]

/-- A fetch that is sent now and takes no time ends now. -/
theorem ending_of_sent {f : Fetch} {now : Nat} (hle : now ≤ f.reply.due) :
    ([f].filter fun g => g.reply.due ≤ now).map (fun g => (⟨now, g⟩ : Mark)) =
      ([⟨now, f⟩].filter fun b => b.due ≤ now).map ending := by
  by_cases hdue : f.reply.due ≤ now
  · have heq : now = f.reply.due := Nat.le_antisymm hle hdue
    simp [ending, due, ← heq]
  · simp [due, hdue]

theorem pending_of_sent (f : Fetch) (now : Nat) :
    [f].filter (fun g => !(g.reply.due ≤ now)) = (⟨now, f⟩ : Mark).pending now := by
  by_cases hdue : f.reply.due ≤ now <;> simp [pending, due, hdue]

end Mark

/-! ## Polls -/

/-- Whether a stream was polled as it should be until `now`: at `c` first, and then at the first
tick by which the poll before had ended.  Every poll but the last has ended. -/
structure Paced (c p limit now : Nat) (earlier : List Mark) (last : Mark) : Prop where
  first : (earlier ++ [last]).head?.map (·.time) = some c
  chain : (earlier ++ [last]).IsChain fun a b => a.Next c p b.time
  punctual : ∀ a ∈ earlier ++ [last],
    (∃ k, a.time = c + k * p) ∧ a.time ≤ a.due ∧ a.due ≤ a.time + limit
  passed : ∀ a ∈ earlier, a.due ≤ now
  last_le : last.time ≤ now
  next : ∀ k, last.time < c + k * p → last.due ≤ c + k * p → now < c + k * p

namespace Paced

variable {c p limit now later : Nat} {earlier : List Mark} {last : Mark}

theorem start {a : Mark} (htime : a.time = c) (hle : a.time ≤ a.due)
    (hdue : a.due ≤ a.time + limit) : Paced c p limit c [] a where
  first := by simp [htime]
  chain := List.isChain_singleton _
  punctual := by
    intro b hb
    rw [List.mem_singleton.1 hb]
    exact ⟨⟨0, by simp [htime]⟩, hle, hdue⟩
  passed := by simp
  last_le := Nat.le_of_eq htime
  next := fun k hk _ => by omega

/-- Time passes without a poll, as long as there is no tick or the last one has not ended. -/
theorem wait (h : Paced c p limit now earlier last) (hle : now ≤ later)
    (hnext : ∀ k, now < c + k * p → last.due ≤ c + k * p → later < c + k * p) :
    Paced c p limit later earlier last where
  first := h.first
  chain := h.chain
  punctual := h.punctual
  passed := fun a ha => Nat.le_trans (h.passed a ha) hle
  last_le := Nat.le_trans h.last_le hle
  next := fun k hk hd => hnext k (h.next k hk hd) hd

/-- At a tick by which the last poll has ended there is another. -/
theorem poll (h : Paced c p limit now earlier last) (hlater : later = now + 1)
    (htick : ∃ k, later = c + k * p) (hended : last.due ≤ later) {a : Mark}
    (htime : a.time = later) (hle : a.time ≤ a.due) (hdue : a.due ≤ a.time + limit) :
    Paced c p limit later (earlier ++ [last]) a where
  first := by
    rw [List.head?_append_of_ne_nil _ (by simp)]
    exact h.first
  chain := by
    refine List.isChain_append.2 ⟨h.chain, List.isChain_singleton _, fun b hb d hd => ?_⟩
    rw [List.getLast?_concat, Option.mem_some_iff] at hb
    rw [List.head?_cons, Option.mem_some_iff] at hd
    subst hb hd
    have hlast := h.last_le
    refine ⟨htime ▸ htick, by omega, by omega, fun k hk hd => ?_⟩
    -- an earlier tick would have come by now, and the last poll was not followed by any
    have hcome := h.next k hk hd
    omega
  punctual := by
    intro b hb
    rcases List.mem_append.1 hb with hb | hb
    · exact h.punctual b hb
    · rw [List.mem_singleton.1 hb]
      exact ⟨htime ▸ htick, hle, hdue⟩
  passed := by
    intro b hb
    rcases List.mem_append.1 hb with hb | hb
    · have hpassed := h.passed b hb
      omega
    · rw [List.mem_singleton.1 hb]
      exact hended
  last_le := Nat.le_of_eq htime
  next := fun k hk _ => by omega

/-- The fetches that have ended are those whose end was due; of the others only the last poll can
end within the next millisecond. -/
theorem ended (h : Paced c p limit now earlier last) (hle : now ≤ later) (hsucc : later ≤ now + 1) :
    ((earlier ++ [last]).filter fun a => a.due ≤ now).map Mark.ending ++
        ((last.pending now).filter fun f => f.reply.due ≤ later).map (fun f => ⟨later, f⟩) =
      ((earlier ++ [last]).filter fun a => a.due ≤ later).map Mark.ending := by
  have hover (time : Nat) (htime : now ≤ time) : earlier.filter (fun a => a.due ≤ time) = earlier :=
    List.filter_eq_self.2 fun a ha => decide_eq_true (Nat.le_trans (h.passed a ha) htime)
  rw [List.filter_append, List.filter_append, hover now (Nat.le_refl _), hover later hle,
    List.map_append, List.map_append, List.append_assoc, last.ending_of_pending hle hsucc]

end Paced

end VideoWall
