import VideoWall.Proofs.Turns

/-!
# Answers to discoveries

A discovery is sent to the address that is in force, and its answer may come at any later time: after
other discoveries, after their answers, after switches.  It is applied if the address in force is
then the one that it was sent to, whatever has happened in between.

    a failure over a loaded catalog changes nothing, unless a mount or a switch has sent the
    discovery: then the grid is lost                                 (failed_answer_of_loaded)
    what is applied is from the address that the latest switch has turned to
                                                                  (applied_at_latest_address)
-/

namespace VideoWall

/-- Whether the page says that the streams could not be found. -/
def View.isFailure : View → Bool
  | discoveryFailed _ => true
  | _ => false

theorem Dashboard.isFailure_view (d : Dashboard) (stores : Stores) (now : Instant) :
    (d.view stores now).isFailure = true ↔ ∃ message, d.catalog = .failed message := by
  unfold view
  cases d.catalog with
  | pending => simp [View.isFailure]
  | failed message => simp [View.isFailure]
  | loaded streams =>
    simp only [reduceCtorEq, exists_false, iff_false]
    split
    · exact Bool.false_ne_true
    · split <;> exact Bool.false_ne_true

namespace Turn

/-! ## Failures -/

/-- An answer that is not applied leaves all as it was but the list of those under way. -/
theorem next_answer_of_none {s : Session} {n : Nat} (h : (answer n).dashboard? s = none) :
    ((answer n).next s).dashboard = s.dashboard ∧ ((answer n).next s).timeline = s.timeline := by
  cases hd : s.discoveries[n]? with
  | none =>
    rw [next_answer_none hd]
    exact ⟨rfl, rfl⟩
  | some d =>
    rw [dashboard?_answer hd] at h
    rw [next_answer_some hd, dashboard_finish, timeline_finish]
    simp only [h, Option.getD_none, and_self]

/-- A turn finds the streams missing only by applying a failure. -/
theorem failed_next_cases {s : Session} {t : Turn} {message : String}
    (h : (t.next s).dashboard.catalog = .failed message) :
    s.dashboard.catalog = .failed message ∨
      ∃ n d failure, t = answer n ∧ s.discoveries[n]? = some d ∧
        decodeStreams d.reply.outcome = .error failure ∧ d.baseUrl = s.dashboard.baseUrl ∧
          (d.keepSelection && s.dashboard.catalog.isLoaded) = false := by
  rw [dashboard_next] at h
  cases hmade : t.dashboard? s with
  | none =>
    rw [hmade] at h
    exact .inl h
  | some e =>
    rw [hmade, Option.getD_some] at h
    cases t with
    | switch text =>
      simp only [dashboard?] at hmade
      obtain ⟨-, rfl⟩ := Dashboard.eq_of_switch (eq_ok_of_toOption hmade)
      cases h
    | answer n =>
      obtain ⟨d, hd, hmade⟩ := Option.bind_eq_some_iff.1 hmade
      obtain ⟨hbase, ⟨streams, -, rfl⟩ | ⟨failure, hf, hkept, -⟩⟩ :=
        Dashboard.eq_of_discovered hmade
      · cases h
      · exact .inr ⟨n, d, failure, rfl, hd, hf, hbase.symm, hkept⟩
    | select raws =>
      simp only [dashboard?] at hmade
      obtain ⟨streams, -, -, rfl⟩ := Dashboard.eq_of_select (eq_ok_of_toOption hmade)
      exact .inl h
    | configure patch =>
      cases hmade
      exact .inl h
    | _ => cases hmade

/-- A failure over a loaded catalog changes neither the dashboard nor what is polled if a rescan has
sent the discovery or another address is in force.  Over a loaded catalog the page comes to say that
the streams could not be found only by the failure of a mount or a switch. -/
theorem failed_answer_of_loaded (s : Session) (hl : s.dashboard.catalog.isLoaded = true) :
    (∀ n d failure, s.discoveries[n]? = some d → decodeStreams d.reply.outcome = .error failure →
        (d.keepSelection = true ∨ d.baseUrl ≠ s.dashboard.baseUrl) →
        ((answer n).next s).dashboard = s.dashboard ∧
          ((answer n).next s).timeline = s.timeline) ∧
      ∀ t now, ((next s t).snapshot now).view.isFailure = true →
        ∃ n d failure, t = answer n ∧ s.discoveries[n]? = some d ∧
          decodeStreams d.reply.outcome = .error failure ∧ d.baseUrl = s.dashboard.baseUrl ∧
            d.keepSelection = false := by
  refine ⟨fun n d failure hd hf hkept => next_answer_of_none ?_, fun t now hfailed => ?_⟩
  · rw [dashboard?_answer hd, hf]
    rcases hkept with hk | hb
    · rw [hk]
      exact Dashboard.discovered_of_loaded hl _ _
    · exact Dashboard.discovered_of_ne (Ne.symm hb) _ _
  · obtain ⟨message, hc⟩ := (Dashboard.isFailure_view _ _ _).1 hfailed
    rcases failed_next_cases hc with hbefore | ⟨n, d, failure, ht, hd, hf, hbase, hkept⟩
    · rw [hbefore] at hl
      cases hl
    · rw [hl, Bool.and_true] at hkept
      exact ⟨n, d, failure, ht, hd, hf, hbase, hkept⟩

/-- A rescan fails while two streams are on the page. -/
theorem grid_kept_after_failed_rescan :
    let url := "http://localhost:8080/streams"
    let s := history {} 0
      [serve url { body := "[\"a\",\"b\"]".toUTF8.toList }, send false, answer 0,
        serve url { status := 500 }, send true]
    s.dashboard.catalog.isLoaded = true ∧ s.dashboard.selection.length = 2 ∧
      (∃ d ∈ s.discoveries[0]?, d.baseUrl = s.dashboard.baseUrl ∧
        ∃ failure, decodeStreams d.reply.outcome = .error failure) ∧
      ((answer 0).next s).dashboard = s.dashboard ∧ ((answer 0).next s).timeline = s.timeline := by
  intro url s
  have hloaded : s.dashboard.catalog.isLoaded = true := by decide +kernel
  have hlength : s.dashboard.selection.length = 2 := by decide +kernel
  have hsent : s.discoveries[0]?.map (fun d => (d.keepSelection, d.baseUrl,
      (decodeStreams d.reply.outcome).toOption.isNone)) =
        some (true, s.dashboard.baseUrl, true) := by
    decide +kernel
  obtain ⟨d, hd, hfound⟩ := Option.map_eq_some_iff.1 hsent
  obtain ⟨hkeep, hbase, hnone⟩ : d.keepSelection = true ∧ d.baseUrl = s.dashboard.baseUrl ∧
      (decodeStreams d.reply.outcome).toOption.isNone = true := by
    simpa only [Prod.mk.injEq] using hfound
  cases hf : decodeStreams d.reply.outcome with
  | ok streams =>
    rw [hf] at hnone
    cases hnone
  | error failure =>
    exact ⟨hloaded, hlength, ⟨d, hd, hbase, failure, hf⟩,
      (failed_answer_of_loaded s hloaded).1 0 d failure hd hf (.inl hkeep)⟩

/-- A switch to an address that does not answer well is overtaken by a rescan, which does find the
streams there.  One of them is selected and shown when the failure of the switch arrives. -/
theorem grid_lost_to_late_failure :
    let found : Answer := { body := "[\"cam1\"]".toUTF8.toList }
    let s := history {} 0
      [switch "http://b", send false, serve "http://b/streams" found, send true, answer 1,
        select ["cam1"]]
    let t := (answer 0).next s
    (s.snapshot s.now).view.isFailure = false ∧ s.dashboard.catalog.isLoaded = true ∧
      s.timeline.poller.plan.targets.length = 1 ∧
      (t.snapshot t.now).view.isFailure = true ∧ t.dashboard.catalog.isLoaded = false ∧
      t.timeline.poller.plan.targets.length = 0 := by
  decide +kernel

/-! ## Answers that come late -/

/-- The discovery that is sent now. -/
def asked (s : Session) (keep : Bool) : Discovery where
  call := s.calls
  baseUrl := s.dashboard.baseUrl
  keepSelection := keep
  reply := s.timeline.ask (streamsUrl s.dashboard.baseUrl) s.dashboard.config.timeout

theorem discoveries_finish (s : Session) (d : Discovery) :
    (s.finish d).discoveries = s.discoveries := by
  simp only [Session.finish]
  split <;> rfl

theorem discoveries_next (s : Session) (t : Turn) :
    (t.next s).discoveries =
      match t with
      | send keep => s.discoveries ++ [asked s keep]
      | answer n => s.discoveries.eraseIdx n
      | prefer call => (s.prefer call).discoveries
      | _ => s.discoveries := by
  cases t with
  | switch text =>
    simp only [next]
    split <;> rfl
  | answer n =>
    cases hd : s.discoveries[n]? with
    | none =>
      rw [next_answer_none hd]
      exact (List.eraseIdx_of_length_le (List.getElem?_eq_none_iff.1 hd)).symm
    | some d => rw [next_answer_some hd, discoveries_finish]
  | select raws =>
    rw [next_select]
    split <;> rfl
  | _ => rfl

/-- What is under way was under way before, or is sent in this turn. -/
theorem mem_discoveries_next {s : Session} {t : Turn} {d : Discovery}
    (h : d ∈ (t.next s).discoveries) :
    d ∈ s.discoveries ∨ ∃ keep, t = send keep ∧ d = asked s keep := by
  rw [discoveries_next] at h
  split at h
  · next keep =>
    rcases List.mem_append.1 h with h | h
    · exact .inl h
    · exact .inr ⟨keep, rfl, List.mem_singleton.1 h⟩
  · exact .inl (List.mem_of_mem_eraseIdx h)
  · rcases List.mem_append.1 h with h | h <;> exact .inl (List.mem_filter.1 h).1
  · exact .inl h

/-- What is under way was sent at some time. -/
theorem sent_of_mem_discoveries {s : Session} {ts : List Turn} {d : Discovery}
    (h : d ∈ (run s ts).discoveries) :
    d ∈ s.discoveries ∨
      ∃ before keep later, ts = before ++ send keep :: later ∧ d = asked (run s before) keep := by
  induction ts generalizing s with
  | nil => exact .inl h
  | cons t ts ih =>
    rcases ih (s := t.next s) h with hfirst | ⟨before, keep, later, rfl, hd⟩
    · rcases mem_discoveries_next hfirst with hd | ⟨keep, rfl, hd⟩
      · exact .inl hd
      · exact .inr ⟨[], keep, ts, rfl, hd⟩
    · exact .inr ⟨t :: before, keep, later, rfl, hd⟩

/-- The address that a switch turns to, unless it is refused. -/
def base? : Turn → Option String
  | switch text => if Dashboard.baseOf text = "" then none else some (Dashboard.baseOf text)
  | _ => none

theorem baseUrl_next (s : Session) (t : Turn) :
    (t.next s).dashboard.baseUrl = t.base?.getD s.dashboard.baseUrl := by
  rw [dashboard_next]
  cases t with
  | switch text =>
    simp only [dashboard?, base?, Dashboard.switch]
    split <;> rfl
  | answer n =>
    cases hmade : (answer n).dashboard? s with
    | none => rfl
    | some e =>
      obtain ⟨d, -, hmade⟩ := Option.bind_eq_some_iff.1 hmade
      obtain ⟨-, ⟨streams, -, rfl⟩ | ⟨failure, -, -, rfl⟩⟩ := Dashboard.eq_of_discovered hmade
      · rfl
      · rfl
  | select raws =>
    cases hmade : (select raws).dashboard? s with
    | none => rfl
    | some e =>
      simp only [dashboard?] at hmade
      obtain ⟨streams, -, -, rfl⟩ := Dashboard.eq_of_select (eq_ok_of_toOption hmade)
      rfl
  | _ => rfl

/-- The address in force is the one that the latest switch has turned to. -/
theorem baseUrl_run (s : Session) (ts : List Turn) :
    (run s ts).dashboard.baseUrl = (ts.filterMap base?).getLast?.getD s.dashboard.baseUrl := by
  induction ts generalizing s with
  | nil => rfl
  | cons t ts ih =>
    have hnext : (run s (t :: ts)).dashboard.baseUrl =
        (ts.filterMap base?).getLast?.getD (t.base?.getD s.dashboard.baseUrl) := by
      rw [← baseUrl_next]
      exact ih (t.next s)
    rw [hnext, List.filterMap_cons]
    cases hb : t.base? with
    | none => rfl
    | some base =>
      rw [List.getLast?_cons]
      cases (ts.filterMap base?).getLast? <;> rfl

/-- An answer that changes the dashboard or what is polled is to a discovery that was sent to the
address in force.  If switches were accepted since it was sent, the latest of them has turned to that
same address.  Over a loaded catalog it is no failure of a rescan. -/
theorem applied_at_latest_address (config : AppConfig) (start : Int) (ts : List Turn) (n : Nat)
    (d : Discovery) (hd : (history config start ts).discoveries[n]? = some d)
    (happlied :
      let s := history config start ts
      ¬(((answer n).next s).dashboard = s.dashboard ∧ ((answer n).next s).timeline = s.timeline)) :
    ∃ before keep later, ts = before ++ send keep :: later ∧
      d = asked (history config start before) keep ∧
      (history config start ts).dashboard.baseUrl = d.baseUrl ∧
      (∀ base ∈ (later.filterMap base?).getLast?, base = d.baseUrl) ∧
      (keep = true → (history config start ts).dashboard.catalog.isLoaded = true →
        ∃ streams, decodeStreams d.reply.outcome = .ok streams) := by
  have hsome : (answer n).dashboard? (history config start ts) ≠ none :=
    fun hnone => happlied (next_answer_of_none hnone)
  obtain ⟨e, hmade⟩ := Option.ne_none_iff_exists'.1 hsome
  rw [dashboard?_answer hd] at hmade
  obtain ⟨hbase, hresult⟩ := Dashboard.eq_of_discovered hmade
  rcases sent_of_mem_discoveries (List.mem_of_getElem? hd) with
    hold | ⟨before, keep, later, rfl, hsent⟩
  · cases hold
  have hkeep : d.keepSelection = keep := congrArg Discovery.keepSelection hsent
  have hfrom : d.baseUrl = (history config start before).dashboard.baseUrl :=
    congrArg Discovery.baseUrl hsent
  have hlatest : (later.filterMap base?).getLast?.getD d.baseUrl = d.baseUrl := by
    have hrun := baseUrl_run (history config start before) (send keep :: later)
    rw [← hfrom, history, ← run_append] at hrun
    exact hrun.symm.trans hbase
  refine ⟨before, keep, later, rfl, hsent, hbase, fun base hb => ?_, fun hk hl => ?_⟩
  · rw [hb, Option.getD_some] at hlatest
    exact hlatest
  · rcases hresult with ⟨streams, hok, -⟩ | ⟨failure, -, hkept, -⟩
    · exact ⟨streams, hok⟩
    · rw [hkeep, hl, Bool.and_true] at hkept
      rw [hkept] at hk
      cases hk

/-- A mount is answered after a switch to another spelling of the address in force. -/
theorem applied_after_switch_to_same_address :
    let ts := [serve "http://a/streams" { body := "[\"cam1\"]".toUTF8.toList }, send false,
      switch "http://a/", send false]
    let s := history { baseUrl := "http://a" } 0 ts
    ∃ d, s.discoveries[0]? = some d ∧
      ¬(((answer 0).next s).dashboard = s.dashboard ∧ ((answer 0).next s).timeline = s.timeline) ∧
      ∃ before keep later, ts = before ++ send keep :: later ∧
        d = asked (history { baseUrl := "http://a" } 0 before) keep ∧
        s.dashboard.baseUrl = d.baseUrl ∧
        ∀ base ∈ (later.filterMap base?).getLast?, base = d.baseUrl := by
  intro ts s
  have hsome : s.discoveries[0]?.isSome = true := by decide +kernel
  obtain ⟨d, hd⟩ := Option.isSome_iff_exists.1 hsome
  have happlied : ¬(((answer 0).next s).dashboard = s.dashboard ∧
      ((answer 0).next s).timeline = s.timeline) := by
    rintro ⟨hsame, -⟩
    have hraised : ((answer 0).next s).dashboard.layoutVersion ≠ s.dashboard.layoutVersion := by
      decide +kernel
    exact hraised (congrArg Dashboard.layoutVersion hsame)
  obtain ⟨before, keep, later, hts, hsent, hbase, hlatest, -⟩ :=
    applied_at_latest_address { baseUrl := "http://a" } 0 ts 0 d hd happlied
  exact ⟨d, hd, happlied, before, keep, later, hts, hsent, hbase, hlatest⟩

/-- Answers that are out of date are applied.  The first answer of the first history is to a
discovery that was sent before the switch away from its address and the switch back; the first answer
of the second one is to a discovery that was sent before another whose answer is there already. -/
theorem outdated_answers_applied :
    let found (id : String) : Answer := { body := ("[\"" ++ id ++ "\"]").toUTF8.toList }
    let names (s : Session) := s.dashboard.catalog.streams?.map (·.map StreamId.raw)
    let away := history { baseUrl := "http://a" } 0
      [serve "http://a/streams" (found "old"), send false, switch "http://b", send false,
        switch "http://a", send false]
    let overtaken := history { baseUrl := "http://a" } 0
      [serve "http://a/streams" (found "old"), send true,
        serve "http://a/streams" (found "new"), send true, answer 1]
    (away.discoveries.map (·.call) = [0, 1, 2] ∧ names away = none ∧
        names ((answer 0).next away) = some ["old"]) ∧
      overtaken.discoveries.map (·.call) = [0] ∧ names overtaken = some ["new"] ∧
        names ((answer 0).next overtaken) = some ["old"] := by
  decide +kernel

end Turn

end VideoWall
