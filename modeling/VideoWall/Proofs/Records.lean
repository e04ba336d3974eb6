import VideoWall.Proofs.Endings
import VideoWall.Proofs.Layouts

/-!
# Records and outcomes

The cache keeps the last good metadata of a stream through all that may go wrong later, until the
backend is switched.  The board has the outcome of the latest fetch beside it, and the two fit: a
good outcome is that of the record, a failure is not older than the record, and a stream without an
outcome has no record.

    the record of a stream is that of the latest good fetch since the switch
                                                                     (record_of_latest_good)
    what is known of a stream fits, and so does what a panel shows of it (panels_of_fitting)
-/

namespace VideoWall

/-! ## What fits -/

/-- Whether this can be known of one stream at the same time. -/
def Fit (record : Option MetadataRecord) : Option FetchStatus → Prop
  | some (.ok time) => ∃ r, record = some r ∧ r.fetchedAt = time
  | some (.failed time _) => ∀ r ∈ record, r.fetchedAt ≤ time
  | none => record = none

/-- A fetch leaves of a stream nothing at all, a record and its good outcome, or a failure alone. -/
theorem Ending.cases_of_stream (e : Ending) (id : StreamId) :
    (e.record? id = none ∧ e.outcome? id = none) ∨
      (∃ r, e.record? id = some r ∧ r.fetchedAt = e.time ∧ e.outcome? id = some (.ok e.time)) ∨
      e.record? id = none ∧ ∃ message, e.outcome? id = some (.failed e.time message) := by
  unfold record? outcome?
  by_cases hc : e.concerns id = true
  · simp only [hc, if_true]
    cases decodeMetadata e.fetch.reply.outcome with
    | ok payload => exact .inr (.inl ⟨_, rfl, rfl, rfl⟩)
    | error failure => exact .inr (.inr ⟨rfl, _, rfl⟩)
  · exact .inl ⟨if_neg hc, if_neg hc⟩

namespace Stores

/-- Whether what is known of each stream fits, and no record is newer than `now`. -/
structure Sound (s : Stores) (now : Instant) : Prop where
  fit : ∀ id, Fit (s.cache.get? id) (s.board.get? id)
  record_le : ∀ id, ∀ r ∈ s.cache.get? id, r.fetchedAt ≤ now

theorem sound_empty (now : Instant) : Sound {} now where
  fit := fun _ => rfl
  record_le := fun _ _ hr => nomatch hr

theorem Sound.mono {s : Stores} {now later : Instant} (h : s.Sound now) (hle : now ≤ later) :
    s.Sound later where
  fit := h.fit
  record_le := fun id r hr => Instant.le_trans (h.record_le id r hr) hle

/-- Records are not newer than the end of a fetch, so its failure is not older than they are. -/
theorem Sound.after {s : Stores} {e : Ending} (h : s.Sound e.time) : (s.after e).Sound e.time := by
  refine ⟨fun id => ?_, fun id r hr => ?_⟩
  · rw [record_after, outcome_after]
    rcases e.cases_of_stream id with ⟨hr, ho⟩ | ⟨r, hr, htime, ho⟩ | ⟨hr, message, ho⟩ <;>
      rw [hr, ho]
    · exact h.fit id
    · exact ⟨r, rfl, htime⟩
    · exact h.record_le id
  · rw [record_after] at hr
    rcases e.cases_of_stream id with ⟨hn, -⟩ | ⟨new, hn, htime, -⟩ | ⟨hn, -⟩ <;> rw [hn] at hr
    · exact h.record_le id r hr
    · cases hr
      rw [htime]
      exact Instant.le_refl _
    · exact h.record_le id r hr

theorem Sound.foldl_after {s : Stores} {now : Instant} (h : s.Sound now) {es : List Ending}
    (hes : ∀ e ∈ es, e.time = now) : (es.foldl Stores.after s).Sound now := by
  refine List.foldlRecOn (motive := fun t : Stores => t.Sound now) es _ h fun t ht e he => ?_
  rw [← hes e he] at ht ⊢
  exact ht.after

end Stores

namespace Turn

theorem sound_next {s : Session} (h : s.timeline.stores.Sound s.timeline.instant) (t : Turn) :
    (t.next s).timeline.stores.Sound (t.next s).timeline.instant := by
  rw [stores_next]
  split
  · exact Stores.sound_empty _
  · exact (h.foldl_after fun e he => time_of_mem_endings he).mono (instant_le_next s t)

theorem sound_run {s : Session} (h : s.timeline.stores.Sound s.timeline.instant) (ts : List Turn) :
    (run s ts).timeline.stores.Sound (run s ts).timeline.instant := by
  induction ts generalizing s with
  | nil => exact h
  | cons t ts ih => exact ih (sound_next h t)

theorem sound_history (config : AppConfig) (start : Int) (ts : List Turn) :
    let s := history config start ts
    s.timeline.stores.Sound s.timeline.instant :=
  sound_run (Stores.sound_empty _) ts

/-! ## The last good record -/

/-- At the start of a session nothing is known of any stream, nor is anything after a switch. -/
theorem stores_history_of_fresh (config : AppConfig) (start : Int) {ts : List Turn}
    (h : ∀ t ∈ ts.getLast?, t.base?.isSome = true) :
    (history config start ts).timeline.stores = {} := by
  rcases List.eq_nil_or_concat ts with rfl | ⟨before, t, rfl⟩
  · rfl
  · rw [List.concat_eq_append] at h ⊢
    have ht : t.base?.isSome = true := h t (by simp)
    have hlast : history config start (before ++ [t]) = t.next (history config start before) := by
      simp only [history, run, List.foldl_append, List.foldl_cons, List.foldl_nil]
    rw [hlast, stores_next, if_pos ht]

/-- While the backend is not switched, the record of a stream is the one that the latest good and
current fetch of it has left, and there is one only if there was such a fetch or a record before;
after the start of a session and after a switch there is none before.  A record is thus never
removed and never replaced by an older one, and fetches that fail change no record at all. -/
theorem record_of_latest_good (config : AppConfig) (start : Int) (before ts : List Turn)
    (hts : ∀ t ∈ ts, t.base? = none) (id : StreamId) :
    let s := history config start before
    let t := run s ts
    t.timeline.stores.cache.get? id =
        ((ended s ts).reverse.findSome? (Ending.record? id)).or (s.timeline.stores.cache.get? id) ∧
      ((∀ turn ∈ before.getLast?, turn.base?.isSome = true) →
        s.timeline.stores.cache.get? id = none) ∧
      (∀ r ∈ s.timeline.stores.cache.get? id,
        ∃ later ∈ t.timeline.stores.cache.get? id, r.fetchedAt ≤ later.fetchedAt) ∧
      ((∀ e ∈ ended s ts, ∃ failure, decodeMetadata e.fetch.reply.outcome = .error failure) →
        t.timeline.stores.cache = s.timeline.stores.cache) := by
  intro s t
  have hstores : t.timeline.stores = (ended s ts).foldl Stores.after s.timeline.stores :=
    stores_run hts
  have hrecord : t.timeline.stores.cache.get? id =
      ((ended s ts).reverse.findSome? (Ending.record? id)).or
        (s.timeline.stores.cache.get? id) := by
    rw [hstores]
    exact Stores.record_foldl_after _ _ id
  refine ⟨hrecord, fun hfresh => ?_, fun r hr => ?_, fun hfailed => ?_⟩
  · have hempty : s.timeline.stores = {} := stores_history_of_fresh config start hfresh
    rw [hempty]
    rfl
  · cases hfound : (ended s ts).reverse.findSome? (Ending.record? id) with
    | none =>
      rw [hfound, Option.none_or] at hrecord
      exact ⟨r, hrecord.trans hr, Instant.le_refl _⟩
    | some later =>
      rw [hfound, Option.some_or] at hrecord
      refine ⟨later, hrecord, ?_⟩
      -- the record there was is not newer than the moment from which on fetches have ended
      have hle : r.fetchedAt ≤ s.timeline.instant :=
        (sound_history config start before).record_le id r hr
      obtain ⟨e, he, hleft⟩ := List.exists_of_findSome?_eq_some hfound
      have htime : later.fetchedAt = e.time := by
        rcases e.cases_of_stream id with ⟨hn, -⟩ | ⟨new, hn, htime, -⟩ | ⟨hn, -⟩ <;>
          cases hn.symm.trans hleft
        exact htime
      rw [htime]
      exact Instant.le_trans hle (instant_le_of_mem_ended (List.mem_reverse.1 he))
  · rw [hstores]
    exact Stores.cache_foldl_after_of_error _ hfailed

/-- A stream is fetched well once.  Then its fetch fails, polling is paused and a rescan fails. -/
theorem record_kept_after_failures :
    let url := "http://localhost:8080/meta/cam1/main"
    let streams := "http://localhost:8080/streams"
    let before := [serve streams { body := "[\"cam1\"]".toUTF8.toList },
      serve url { body := "1".toUTF8.toList, delay := 2 }, send false, answer 0, adopt, tick, pass,
      pass, collect, serve url { status := 500 }, serve streams { status := 500 }]
    let ts := [pass, tick, collect, configure { running := some false }, adopt, send true, answer 0]
    let s := history {} 0 before
    let t := run s ts
    (∀ turn ∈ ts, turn.base? = none) ∧ (ended s ts).length = 1 ∧
      ∃ r ∈ s.timeline.stores.cache.get? (.parse "cam1/main"),
        (∃ later ∈ t.timeline.stores.cache.get? (.parse "cam1/main"),
          r.fetchedAt ≤ later.fetchedAt) ∧
        t.timeline.stores.cache = s.timeline.stores.cache := by
  intro url streams before ts
  dsimp only
  have hts : ∀ turn ∈ ts, turn.base? = none := by decide +kernel
  have hlength : (ended (history {} 0 before) ts).length = 1 := by decide +kernel
  have hfetched : ((history {} 0 before).timeline.stores.cache.get?
      (.parse "cam1/main")).isSome = true := by
    decide +kernel
  have hfailed : (ended (history {} 0 before) ts).all (fun e =>
      (decodeMetadata e.fetch.reply.outcome).toOption.isNone) = true := by
    decide +kernel
  obtain ⟨r, hr⟩ := Option.isSome_iff_exists.1 hfetched
  obtain ⟨-, -, hkept, hsame⟩ := record_of_latest_good {} 0 before ts hts (.parse "cam1/main")
  refine ⟨hts, hlength, r, hr, hkept r hr, hsame fun e he => ?_⟩
  cases hd : decodeMetadata e.fetch.reply.outcome with
  | error failure => exact ⟨failure, rfl⟩
  | ok payload =>
    have hnone := List.all_eq_true.1 hfailed e he
    rw [hd] at hnone
    cases hnone

/-! ## Panels -/

end Turn

/-- A panel shows what fits. -/
theorem Panel.status_of_fit {stores : Stores} {id : StreamId}
    (h : Fit (stores.cache.get? id) (stores.board.get? id)) (now : Instant) :
    (∀ time, (build stores now id).status = .fresh time →
        (build stores now id).payload.isSome = true) ∧
      ((build stores now id).status = .waiting → (build stores now id).payload = none) ∧
      ∀ message failedAt last,
        (build stores now id).status = .stale message failedAt (some last) → last ≤ failedAt := by
  simp only [build, PanelStatus.of]
  cases ho : stores.board.get? id with
  | none =>
    rw [ho] at h
    have hr : stores.cache.get? id = none := h
    simp [hr]
  | some outcome =>
    rw [ho] at h
    cases outcome with
    | ok time =>
      obtain ⟨r, hr, -⟩ := h
      simp [hr]
    | failed time message =>
      refine ⟨nofun, nofun, fun m failedAt last hs => ?_⟩
      simp only [PanelStatus.stale.injEq, Option.map_eq_some_iff] at hs
      obtain ⟨-, rfl, r, hr, rfl⟩ := hs
      exact h r hr

namespace Dashboard

/-- Every panel that is polled is built from what the stores have of its stream. -/
theorem eq_build_of_mem_panels {d : Dashboard} {stores : Stores} {now : Instant} {p : Panel}
    (h : p ∈ (d.panels stores now).panels) : ∃ id, p = Panel.build stores now id := by
  rw [panels_eq_panelled] at h
  obtain ⟨id, -, rfl⟩ := List.mem_map.1 h
  exact ⟨id, rfl⟩

/-- So is every panel on the page. -/
theorem eq_build_of_mem_tiles {d : Dashboard} (hd : d.WithinCatalog) {stores : Stores}
    {now : Instant} {tile : Tile} (h : tile ∈ (d.view stores now).tiles) {p : Panel}
    (hp : tile.panel = some p) : ∃ id, p = Panel.build stores now id := by
  rw [panel_of_mem_tiles hd h] at hp
  split at hp
  · exact ⟨_, (Option.some.inj hp).symm⟩
  · cases hp

end Dashboard

namespace Turn

/-- At every moment of a session what is known of each stream fits.  A panel that is polled or on
the page is fresh only with metadata, waits only without, and if it is stale its last update is not
later than its failure. -/
theorem panels_of_fitting (config : AppConfig) (start : Int) (ts : List Turn) (now : Instant) :
    let s := history config start ts
    let stores := s.timeline.stores
    (∀ id,
        (∀ time, stores.board.get? id = some (.ok time) →
          ∃ r, stores.cache.get? id = some r ∧ r.fetchedAt = time) ∧
        (∀ time message, stores.board.get? id = some (.failed time message) →
          ∀ r ∈ stores.cache.get? id, r.fetchedAt ≤ time) ∧
        (stores.board.get? id = none → stores.cache.get? id = none)) ∧
      ∀ p : Panel,
        (p ∈ (s.panels now).panels ∨
          ∃ tile ∈ (s.snapshot now).view.tiles, tile.panel = some p) →
        (∀ time, p.status = .fresh time → p.payload.isSome = true) ∧
          (p.status = .waiting → p.payload = none) ∧
          ∀ message failedAt last,
            p.status = .stale message failedAt (some last) → last ≤ failedAt := by
  intro s stores
  have hfit : ∀ id, Fit (stores.cache.get? id) (stores.board.get? id) :=
    (sound_history config start ts).fit
  refine ⟨fun id => ?_, fun p hp => ?_⟩
  · have h := hfit id
    refine ⟨fun time ho => ?_, fun time message ho => ?_, fun ho => ?_⟩ <;>
      rw [ho] at h <;> exact h
  · have hbuild : ∃ id, p = Panel.build stores now id := by
      rcases hp with hp | ⟨tile, htile, hp⟩
      · exact Dashboard.eq_build_of_mem_panels hp
      · exact Dashboard.eq_build_of_mem_tiles (withinCatalog_history config start ts) htile hp
    obtain ⟨id, rfl⟩ := hbuild
    exact Panel.status_of_fit (hfit id) now

end Turn

end VideoWall
