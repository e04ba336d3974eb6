import VideoWall.Proofs.Generations
import VideoWall.Timeline

/-!
# What happens at one moment

Whatever is due at one moment happens by events of the poller (`poller_settle`), and the requests
that are sent then are for targets of the latest plan, which is turned to first (`log_settle`).
-/

namespace VideoWall.Timeline

theorem now_tickIfDue (t : Timeline) : t.tickIfDue.now = t.now := by
  unfold tickIfDue
  split <;> rfl

theorem poller_tickIfDue (t : Timeline) : ∃ es, t.tickIfDue.poller = t.poller.run es := by
  unfold tickIfDue
  split
  · exact ⟨[.tick (fun target => t.ask target.metaUrl t.poller.adopted.timeout) t.now], rfl⟩
  · exact ⟨[], rfl⟩

/-- All that is due happens by events of the poller. -/
theorem poller_settle (t : Timeline) : ∃ es, t.settle.poller = t.poller.run es := by
  obtain ⟨es, hes⟩ := poller_tickIfDue t.adopt.deliver
  have hnow : t.adopt.deliver.tickIfDue.now = t.now := now_tickIfDue _
  refine ⟨[.adopt t.now, .collect t.now] ++ es ++ [.collect t.now], ?_⟩
  calc t.settle.poller
      = t.adopt.deliver.tickIfDue.poller.collect t.adopt.deliver.tickIfDue.now := rfl
    _ = (((t.poller.adopt t.now).collect t.now).run es).collect t.now := by rw [hes, hnow]; rfl
    _ = t.poller.run ([.adopt t.now, .collect t.now] ++ es ++ [.collect t.now]) := by
        simp only [Poller.run, List.foldl_append]
        rfl

theorem plan_settle (t : Timeline) : t.settle.poller.plan = t.poller.plan := by
  have htick : t.adopt.deliver.tickIfDue.poller.plan = t.adopt.deliver.poller.plan := by
    unfold tickIfDue
    split <;> rfl
  calc t.settle.poller.plan
      = t.adopt.deliver.tickIfDue.poller.plan := rfl
    _ = (t.poller.adopt t.now).plan := htick
    _ = t.poller.plan := t.poller.plan_adopt t.now

theorem now_settle (t : Timeline) : t.settle.now = t.now := by
  have hsettle : t.settle.now = t.adopt.deliver.tickIfDue.now := rfl
  rw [hsettle, now_tickIfDue]
  rfl

theorem ticker_settle (t : Timeline) :
    t.settle.poller.ticker =
      if t.adopt.poller.isDue t.now then t.adopt.poller.ticker.map (·.rearm t.now)
      else t.adopt.poller.ticker := by
  have hsettle : t.settle.poller.ticker = t.adopt.deliver.tickIfDue.poller.ticker := rfl
  rw [hsettle, tickIfDue]
  have hdue : t.adopt.deliver.poller.isDue t.adopt.deliver.now = t.adopt.poller.isDue t.now := rfl
  rw [hdue]
  split <;> rfl

theorem adopted_settle (t : Timeline) : t.settle.poller.adopted = t.adopt.poller.adopted := by
  have hsettle : t.settle.poller.adopted = t.adopt.deliver.tickIfDue.poller.adopted := rfl
  rw [hsettle, tickIfDue]
  split <;> rfl

/-- A timer that runs out is alive, so the latest plan has been turned to. -/
theorem adopted_of_isDue {p : Poller} {now : Nat}
    (h : ((p.adopt now).collect now).isDue now = true) : (p.adopt now).adopted = p.plan := by
  cases ht : p.ticker with
  | none =>
    simp only [Poller.adopt, ht, Poller.collect, Poller.isDue, Option.any_none] at h
    cases h
  | some ticker => simp only [Poller.adopt, ht]

/-- The requests sent at one moment are for the metadata of targets of the latest plan, and there
are none unless it runs. -/
theorem log_settle (t : Timeline) :
    ∃ sent : List Request, t.settle.log = sent ++ t.log ∧
      ∀ r ∈ sent, r.time = t.now ∧ t.poller.plan.running = true ∧
        ∃ target ∈ t.poller.plan.targets, r.url = target.metaUrl := by
  have hlog : t.settle.log = t.adopt.deliver.tickIfDue.log := rfl
  rw [hlog, tickIfDue]
  split
  · next hdue =>
    refine ⟨_, rfl, fun r hr => ?_⟩
    rw [List.mem_reverse, List.mem_map] at hr
    obtain ⟨url, hurl, rfl⟩ := hr
    obtain ⟨target, htarget, rfl⟩ := List.mem_map.1 hurl
    have hmem := Poller.mem_targets_of_mem_wanted htarget
    have hadopted : t.adopt.deliver.poller.adopted = t.poller.plan := adopted_of_isDue hdue
    rw [hadopted] at hmem
    exact ⟨rfl, hmem.1, target, hmem.2, rfl⟩
  · exact ⟨[], rfl, by simp⟩

end VideoWall.Timeline
