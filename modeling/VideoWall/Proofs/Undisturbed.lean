import VideoWall.Proofs.Counterparts

/-!
# Operations that do not disturb polling

A rescan that fails or finds all that is selected, a select of what is selected or one that is
refused, a change of other settings: they change nothing that is polled.  Most of them hand the
poller a plan all the same, and all of them happen while fetches are under way.  Polling goes on as
if there had been none of them.

    the fetches under way, the timer and the generation are left as they are       (poller_of_quiet)
    what is left out leaves two sessions alike                                       (Aligned.only)
    what is sent, and what is known of every stream, is the same as without these operations
                                                               (same_polls_beside_quiet_operations)
-/

namespace VideoWall.Run

/-! ## Operations that are left out -/

/-- Whether the operation changes nothing that is polled: a rescan, which only asks; a select that
is refused, or selects what is selected; other settings than those of polling. -/
def Action.isQuiet (d : Dashboard) : Action → Bool
  | rescan => true
  | select raws => (d.select raws).toOption.all fun e => e.selection == d.selection
  | updateConfig p =>
    let c := d.config.apply p
    c.intervalMs == d.config.intervalMs && c.timeoutS == d.config.timeoutS &&
      c.running == d.config.running
  | _ => false

/-- The catalog that is found in an event. -/
def Event.found? (s : Session) : Event → Option (List StreamId)
  | answer n => (Turn.answer n).found? s
  | _ => none

/-- Whether the event begins such an operation, or is the answer to a rescan: a failure or, over a
loaded catalog, one that has all that is selected.  At the very start nothing is, because the poller
has no plan yet. -/
def Event.isQuiet (s : Session) (e : Event) : Bool :=
  s.dashboard.isStarted &&
    match e with
    | begin a => a.operation?.all fun b => b.isQuiet s.dashboard
    | answer n =>
      s.discoveries[n]?.all (·.keepSelection) && ((answer n).found? s).all fun streams =>
        s.dashboard.catalog.isLoaded &&
          narrow s.dashboard.selection streams == s.dashboard.selection
    | prefer _ => true
    | _ => false

/-- Whether requests are sent, or the poller is given a plan that asks for the same. -/
def Undisturbed (s t : Session) : Prop :=
  (∃ urls, t.dashboard = s.dashboard ∧ t.timeline = s.timeline.note urls) ∨
    (t.dashboard.PolledAlike s.dashboard ∧
      t.timeline = s.timeline.apply (t.dashboard.update false))

theorem Undisturbed.refl (s : Session) : Undisturbed s s := .inl ⟨[], rfl, rfl⟩

/-- A quiet operation leaves the catalog as it is, and what is polled. -/
theorem quiet_operation {s : Session} {a : Action} (h : a.isQuiet s.dashboard = true) :
    Undisturbed s (begin s a).1 ∧
      (begin s a).1.dashboard.catalog.streams? = s.dashboard.catalog.streams? := by
  cases a with
  | rescan => exact ⟨.inl ⟨[streamsUrl s.dashboard.baseUrl], rfl, rfl⟩, rfl⟩
  | select raws =>
    simp only [begin, Session.select]
    simp only [Action.isQuiet] at h
    cases hs : s.dashboard.select raws with
    | error failure => exact ⟨.refl s, rfl⟩
    | ok d =>
      have hsame : (d.selection == s.dashboard.selection) = true := by
        rw [hs] at h
        exact h
      obtain ⟨streams, -, -, rfl⟩ := Dashboard.eq_of_select hs
      refine ⟨.inr ⟨?_, rfl⟩, rfl⟩
      exact { Dashboard.PolledAlike.refl s.dashboard with
        selection := StreamId.map_full_inj_iff.2 hsame }
  | updateConfig patch =>
    simp only [Action.isQuiet, Bool.and_eq_true, beq_iff_eq] at h
    obtain ⟨⟨hinterval, htimeout⟩, hrunning⟩ := h
    refine ⟨.inr ⟨?_, rfl⟩, rfl⟩
    exact { Dashboard.PolledAlike.refl s.dashboard with
      intervalMs := hinterval, timeoutS := htimeout, running := hrunning }
  | _ => cases h

/-- A quiet answer leaves what is polled, whatever catalog it finds. -/
theorem quiet_answer {s : Session} {n : Nat} (h : (Event.answer n).isQuiet s = true) :
    Undisturbed s (Event.answered s n) ∧
      (Event.answered s n).dashboard.catalog.streams? =
        ((Turn.answer n).found? s).or s.dashboard.catalog.streams? := by
  show Undisturbed s ((Turn.answer n).next s) ∧
    ((Turn.answer n).next s).dashboard.catalog.streams? = _
  simp only [Event.isQuiet, Event.found?, Bool.and_eq_true] at h
  obtain ⟨-, hkeep, hfound⟩ := h
  cases hmade : (Turn.answer n).dashboard? s with
  | none =>
    obtain ⟨hdashboard, htimeline⟩ := Turn.next_answer_of_none hmade
    rw [Turn.unfound_of_dashboard? hmade, Option.none_or]
    exact ⟨.inl ⟨[], hdashboard, htimeline⟩, congrArg (·.catalog.streams?) hdashboard⟩
  | some e =>
    obtain ⟨hdashboard, htimeline⟩ := Turn.next_answer_of_some hmade
    obtain ⟨d, hd, hdiscovered⟩ := Option.bind_eq_some_iff.1 hmade
    rw [hd, Option.all_some] at hkeep
    obtain ⟨hbase, ⟨streams, hok, rfl⟩ | ⟨failure, herror, hl, rfl⟩⟩ :=
      Dashboard.eq_of_discovered hdiscovered
    · rw [Turn.found?_answer hd hbase.symm hok] at hfound ⊢
      rw [Option.all_some, Bool.and_eq_true] at hfound
      refine ⟨.inr ⟨?_, by rw [htimeline, hdashboard]⟩, by rw [hdashboard]; rfl⟩
      rw [hdashboard, hkeep]
      exact { Dashboard.PolledAlike.refl s.dashboard with
        selection := StreamId.map_full_inj_iff.2 hfound.2, isLoaded := hfound.1.symm }
    · rw [hkeep, Bool.true_and] at hl
      have hnone : s.dashboard.catalog.streams? = none :=
        Option.isNone_iff_eq_none.1 (Option.isSome_eq_false_iff.1 hl)
      have hunfound : (Turn.answer n).found? s = none := by
        simp only [Turn.found?, hd, Option.bind_some, herror]
        split <;> rfl
      rw [hunfound, Option.none_or, hnone]
      refine ⟨.inr ⟨?_, by rw [htimeline, hdashboard]⟩, by rw [hdashboard]; rfl⟩
      rw [hdashboard]
      exact { Dashboard.PolledAlike.refl s.dashboard with isLoaded := hl.symm }

theorem quiet_next {s : Session} {e : Event} (h : e.isQuiet s = true) :
    Undisturbed s (e.next s) ∧
      (e.next s).dashboard.catalog.streams? =
        (e.found? s).or s.dashboard.catalog.streams? := by
  cases e with
  | begin a =>
    have hquiet : (a.operation?.all fun b => b.isQuiet s.dashboard) = true :=
      (Bool.and_eq_true_iff.1 h).2
    show Undisturbed s (Run.begin s a).1 ∧ (Run.begin s a).1.dashboard.catalog.streams? = _
    rw [begin_operation]
    cases ha : a.operation? with
    | none => exact ⟨.refl s, rfl⟩
    | some b =>
      rw [ha] at hquiet
      exact quiet_operation hquiet
  | answer n => exact quiet_answer h
  | prefer call => exact ⟨.inl ⟨[], rfl, rfl⟩, rfl⟩
  | poll => simp [Event.isQuiet] at h
  | pass => simp [Event.isQuiet] at h

/-! ## The poller goes on as before -/

/-- An update that asks for the plan that there is leaves it as it is. -/
theorem Carries.update_eq {p : Plan} {u : PlanUpdate} (h : Carries p u)
    (hi : u.invalidate = false) : p.update u = p := by
  obtain ⟨hrunning, hinterval, htimeout, htargets⟩ := h
  have hkeeps : (u.invalidate || (p.running && !u.running) || p.targets != u.targets) = false := by
    simp [hi, hrunning, htargets, bne]
  rw [Plan.update, hkeeps, if_neg Bool.false_ne_true, ← hrunning, ← hinterval, ← htimeout,
    ← htargets]

/-- Whether the poller has the plan of the dashboard, or that is as it was at the start. -/
def Planned (config : AppConfig) (s : Session) : Prop :=
  Carries s.timeline.poller.plan (s.dashboard.update false) ∨ s.dashboard = .ofConfig config

theorem Planned.next {config : AppConfig} {s : Session} (h : Planned config s) (e : Event) :
    Planned config (e.next s) := by
  rcases pushes_next s e with ⟨hd, hp⟩ | ⟨invalidate, hp⟩
  · unfold Planned
    rw [hd, hp]
    exact h
  · left
    rw [hp]
    exact ⟨rfl, rfl, rfl, rfl⟩

theorem planned_sessionAfter (config : AppConfig) (start : Int) (es : List Event) :
    Planned config (sessionAfter config start es) :=
  List.foldlRecOn es _ (.inr rfl) fun _ h e _ => h.next e

theorem Planned.carries {config : AppConfig} {s : Session} (h : Planned config s)
    (hstarted : s.dashboard.isStarted = true) :
    Carries s.timeline.poller.plan (s.dashboard.update false) := by
  rcases h with hcarries | hinitial
  · exact hcarries
  · rw [hinitial] at hstarted
    cases hstarted

/-- The same is polled as before, and the same is known of all streams. -/
theorem Undisturbed.polledAlike {config : AppConfig} {s t : Session} (h : Undisturbed s t)
    (hs : Planned config s) (hstarted : s.dashboard.isStarted = true) : t.PolledAlike s := by
  rcases h with ⟨urls, hd, ht⟩ | ⟨hd, ht⟩
  · refine ⟨?_, ?_⟩
    · rw [hd]
      exact .refl s.dashboard
    · rw [ht]
      rfl
  · have hsame : s.timeline.apply (s.dashboard.update false) = s.timeline := by
      rw [Timeline.apply, Poller.apply, (hs.carries hstarted).update_eq rfl]
    refine ⟨hd, ?_⟩
    calc t.timeline.bare
        = (s.timeline.apply (t.dashboard.update false)).bare := by rw [ht]
      _ = (s.timeline.apply (s.dashboard.update false)).bare :=
          Timeline.apply_of_bare rfl (hd.full_update false)
      _ = s.timeline.bare := by rw [hsame]

/-- The fetches under way and the timer are not touched, and no new generation begins. -/
theorem poller_of_quiet {config : AppConfig} {s : Session} {e : Event} (hs : Planned config s)
    (h : e.isQuiet s = true) :
    let p := s.timeline.poller
    let q := (e.next s).timeline.poller
    q.plan.generation = p.plan.generation ∧ q.inFlight = p.inFlight ∧ q.ticker = p.ticker := by
  have hstarted : s.dashboard.isStarted = true := (Bool.and_eq_true_iff.1 h).1
  have hnext := (quiet_next h).1
  have hgeneration := congrArg (fun t : Timeline => t.poller.plan.generation)
    (hnext.polledAlike hs hstarted).timeline
  rcases hnext with ⟨urls, -, ht⟩ | ⟨-, ht⟩
  · rw [ht]
    exact ⟨rfl, rfl, rfl⟩
  · refine ⟨hgeneration, ?_, ?_⟩
    · rw [ht]
      rfl
    · rw [ht]
      rfl

/-! ## Two sessions, event by event -/

variable {config : AppConfig} {renewed : Bool} {s t : Session}

/-- What happens next in two sessions. -/
inductive Beat where
  /-- An action begins in both. -/
  | both (a : Action)
  /-- The answer to a discovery arrives in both, wherever in line it is. -/
  | answers (n m : Nat)
  | poll
  | pass
  | prefer (call other : Nat)
  /-- Something happens in the first session only. -/
  | only (e : Event)

namespace Beat

def first : Beat → Event
  | both a => .begin a
  | answers n _ => .answer n
  | poll => .poll
  | pass => .pass
  | prefer call _ => .prefer call
  | only e => e

def second? : Beat → Option Event
  | both a => some (.begin a)
  | answers _ m => some (.answer m)
  | poll => some .poll
  | pass => some .pass
  | prefer _ other => some (.prefer other)
  | only _ => none

/-- Whether what is left out in the second session is quiet in the first one, and the rest is the
same in both: answers are to the same discovery and, once the catalog was renewed in the first
session only, a select is accepted in both or in neither. -/
def fits (renewed : Bool) (s t : Session) : Beat → Bool
  | both a =>
    !renewed || a.operation?.all fun b => b.isAccepted s.dashboard == b.isAccepted t.dashboard
  | answers n m =>
    s.discoveries[n]?.map Discovery.content == t.discoveries[m]?.map Discovery.content
  | only e => e.isQuiet s
  | _ => true

/-- Whether the catalog was renewed in the first session only, by finding another one, since one was
found in both. -/
def renews (renewed : Bool) (s : Session) : Beat → Bool
  | answers n _ => renewed && ((Event.answer n).found? s).isNone
  | only e =>
    renewed || (e.found? s).any fun streams => some streams != s.dashboard.catalog.streams?
  | _ => renewed

end Beat

/-- Whether two sessions go on like that. -/
def fits (renewed : Bool) (s t : Session) : List Beat → Bool
  | [] => true
  | b :: bs =>
    b.fits renewed s t &&
      fits (b.renews renewed s) (b.first.next s) (b.second?.elim t (·.next t)) bs

/-- The requests for metadata that are sent in an event. -/
def Event.polled (s : Session) : Event → List Request
  | poll => s.timeline.sent.map Mark.request
  | _ => []

/-- Those that are sent in events, in order. -/
def polled (s : Session) : List Event → List Request
  | [] => []
  | e :: es => e.polled s ++ polled (e.next s) es

/-! ### What both go on with -/

/-- What is left out leaves the sessions aligned. -/
theorem Aligned.only (h : Aligned renewed s t) (hs : Planned config s) {e : Event}
    (he : e.isQuiet s = true) : Aligned ((Beat.only e).renews renewed s) (e.next s) t := by
  obtain ⟨hnext, hcatalog⟩ := quiet_next he
  refine ⟨(hnext.polledAlike hs (Bool.and_eq_true_iff.1 he).1).trans h.toPolledAlike, fun hr => ?_⟩
  simp only [Beat.renews, Bool.or_eq_false_iff] at hr
  have hsame := h.catalog hr.1
  refine Eq.trans ?_ hsame
  rw [hcatalog]
  cases hfound : e.found? s with
  | none => rfl
  | some streams =>
    -- the catalog that is found is the one that there was
    have hbefore : (some streams == s.dashboard.catalog.streams?) = true := by
      have hr := hr.2
      rw [hfound, Option.any_some, bne, Bool.not_eq_false'] at hr
      exact hr
    cases hold : s.dashboard.catalog.streams? with
    | none =>
      rw [hold] at hbefore
      cases hbefore
    | some others =>
      rw [hold] at hbefore
      exact congrArg some (StreamId.map_full_inj_iff.2 hbefore)

/-- The sessions are polled alike after every beat, and the same is sent. -/
theorem Aligned.next (h : Aligned renewed s t) (hs : Planned config s) {b : Beat}
    (hb : b.fits renewed s t = true) :
    Aligned (b.renews renewed s) (b.first.next s) (b.second?.elim t (·.next t)) ∧
      b.first.polled s = (b.second?.map (·.polled t)).getD [] := by
  cases b with
  | both a =>
    refine ⟨h.begin a fun hr => ?_, rfl⟩
    rw [Beat.fits, hr, Bool.not_true, Bool.false_or] at hb
    exact hb
  | answers n m => exact ⟨h.answers (eq_of_beq hb), rfl⟩
  | poll => exact ⟨⟨h.settle, h.catalog⟩, Timeline.sent_of_bare h.timeline⟩
  | pass => exact ⟨⟨h.pass, h.catalog⟩, rfl⟩
  | prefer call other => exact ⟨⟨⟨h.dashboard, h.timeline⟩, h.catalog⟩, rfl⟩
  | only e =>
    refine ⟨h.only hs hb, ?_⟩
    cases e with
    | poll => simp [Beat.fits, Event.isQuiet] at hb
    | _ => rfl

theorem Aligned.run (h : Aligned renewed s t) (hs : Planned config s) {bs : List Beat}
    (hbs : fits renewed s t bs = true) :
    ((bs.map Beat.first).foldl Event.next s).PolledAlike
        ((bs.filterMap Beat.second?).foldl Event.next t) ∧
      polled s (bs.map Beat.first) = polled t (bs.filterMap Beat.second?) := by
  induction bs generalizing renewed s t with
  | nil => exact ⟨h.toPolledAlike, rfl⟩
  | cons b bs ih =>
    rw [fits, Bool.and_eq_true] at hbs
    obtain ⟨halike, hsent⟩ := h.next hs hbs.1
    obtain ⟨hlast, hrest⟩ := ih halike (hs.next b.first) hbs.2
    rw [List.map_cons, List.foldl_cons, polled, hsent, hrest]
    cases hsecond : b.second? with
    | none =>
      rw [hsecond] at hlast
      rw [List.filterMap_cons_none hsecond]
      exact ⟨hlast, rfl⟩
    | some e =>
      rw [hsecond] at hlast
      rw [List.filterMap_cons_some hsecond]
      exact ⟨hlast, rfl⟩

theorem aligned_new (config : AppConfig) (start : Int) :
    Aligned false (.new config start) (.new config start) where
  dashboard := .refl _
  timeline := rfl
  catalog := fun _ => rfl

/-- Operations that change nothing that is polled do not disturb polling: they begin no new
generation and touch neither the fetches under way nor the timer.  So let the same happen in two
sessions, but such operations as well in the first one.  At every moment both have sent the same
requests for metadata at the same times, the same fetches are under way, the timer is at the same
point, and the same is known and shown of every stream.  What both send next is the same
discovery. -/
theorem same_polls_beside_quiet_operations (config : AppConfig) (start : Int) :
    (∀ (es : List Event) (e : Event),
        let s := sessionAfter config start es
        e.isQuiet s = true →
        let p := s.timeline.poller
        let q := (e.next s).timeline.poller
        q.plan.generation = p.plan.generation ∧ q.inFlight = p.inFlight ∧ q.ticker = p.ticker) ∧
      ∀ bs : List Beat, fits false (.new config start) (.new config start) bs = true →
        let s := sessionAfter config start (bs.map Beat.first)
        let t := sessionAfter config start (bs.filterMap Beat.second?)
        let p := s.timeline.poller
        let q := t.timeline.poller
        polled (.new config start) (bs.map Beat.first) =
            polled (.new config start) (bs.filterMap Beat.second?) ∧
          s.timeline.now = t.timeline.now ∧ p.plan.generation = q.plan.generation ∧
          p.inFlight.map Fetch.full = q.inFlight.map Fetch.full ∧ p.ticker = q.ticker ∧
          (∀ id,
            (s.timeline.stores.cache.get? id).map (fun r => (r.payload, r.fetchedAt)) =
                (t.timeline.stores.cache.get? id).map (fun r => (r.payload, r.fetchedAt)) ∧
              s.timeline.stores.board.get? id = t.timeline.stores.board.get? id ∧
              ∀ now, Panel.build s.timeline.stores now id =
                Panel.build t.timeline.stores now id) ∧
          ∀ keep, (s.discover keep).1.discoveries.getLast?.map Discovery.content =
            (t.discover keep).1.discoveries.getLast?.map Discovery.content := by
  refine ⟨fun es e => ?_, fun bs hbs => ?_⟩
  · intro s he
    exact poller_of_quiet (planned_sessionAfter config start es) he
  · intro s t p q
    obtain ⟨halike, hsent⟩ :=
      (aligned_new config start).run (planned_sessionAfter config start []) hbs
    have hbare : s.timeline.bare = t.timeline.bare := halike.timeline
    have hnow := congrArg Timeline.now hbare
    have hpoller := congrArg Timeline.poller hbare
    have hgeneration := congrArg (fun p => p.plan.generation) hpoller
    have hinFlight := congrArg Poller.inFlight hpoller
    have hticker := congrArg Poller.ticker hpoller
    have hstores : s.timeline.stores.full = t.timeline.stores.full :=
      congrArg Timeline.stores hbare
    refine ⟨hsent, hnow, hgeneration, hinFlight, hticker, fun id => ⟨?_, ?_, fun now => ?_⟩,
      halike.content_discover⟩
    · rw [← Stores.record_full, hstores, Stores.record_full]
    · rw [← Stores.outcome_full, hstores, Stores.outcome_full]
    · rw [← Panel.build_full, hstores, Panel.build_full]

/-- A rescan finds another stream and another one fails, a select spells a stream in full and
another one is refused, and the columns are changed, while a fetch is under way. -/
theorem same_polls_beside_rescans :
    let config : AppConfig := { baseUrl := "http://a" }
    let url := "http://a/streams"
    let before : List Beat :=
      [.both (.serve url { body := "[\"a\",\"b\"]".toUTF8.toList }),
        .both (.serve "http://a/meta/a/main" { body := "1".toUTF8.toList, delay := 2 }),
        .both .mount, .answers 0 0, .poll,
        .both (.serve url { body := "[\"b\",\"a\",\"c\"]".toUTF8.toList })]
    let rescan : List Beat := [.only (.begin .rescan), .pass, .poll, .only (.answer 0), .poll]
    let later : List Beat :=
      [.both (.serve url { status := 500 }), .only (.begin .rescan), .only (.answer 0),
        .only (.begin (.select ["a/main", "b"])), .only (.begin (.select ["x"])),
        .only (.begin (.updateConfig { columns := some 3 })), .pass, .poll]
    let bs := before ++ rescan ++ later
    let s := sessionAfter config 0 (bs.map Beat.first)
    let t := sessionAfter config 0 (bs.filterMap Beat.second?)
    let u := sessionAfter config 0 (before.map Beat.first)
    fits false (.new config 0) (.new config 0) bs = true ∧
      ((Event.begin .rescan).isQuiet u = true ∧ u.timeline.poller.inFlight.length = 1 ∧
        ((Event.begin .rescan).next u).timeline.poller.inFlight = u.timeline.poller.inFlight) ∧
      polled (.new config 0) (bs.map Beat.first) =
        polled (.new config 0) (bs.filterMap Beat.second?) ∧
      (polled (.new config 0) (bs.map Beat.first)).length = 2 ∧
      s.dashboard.layoutVersion = 4 ∧ t.dashboard.layoutVersion = 1 ∧
      Panel.build s.timeline.stores s.now (.parse "a") =
        Panel.build t.timeline.stores s.now (.parse "a") ∧
      (Panel.build t.timeline.stores s.now (.parse "a")).status = .fresh s.now := by
  intro config url before rescan later bs s t u
  have hfits : fits false (.new config 0) (.new config 0) bs = true := by decide +kernel
  have hquiet : (Event.begin .rescan).isQuiet u = true := by decide +kernel
  have hlength : u.timeline.poller.inFlight.length = 1 := by decide +kernel
  obtain ⟨hkept, hsame⟩ := same_polls_beside_quiet_operations config 0
  obtain ⟨-, hinFlight, -⟩ := hkept (before.map Beat.first) (.begin .rescan) hquiet
  obtain ⟨hsent, -, -, -, -, hknown, -⟩ := hsame bs hfits
  obtain ⟨-, -, hpanel⟩ := hknown (.parse "a")
  exact ⟨hfits, ⟨hquiet, hlength, hinFlight⟩, hsent, by decide +kernel, by decide +kernel,
    by decide +kernel, hpanel s.now, by decide +kernel⟩

/-- A rescan that changes nothing polled may still make a difference later: a stream that it has
found can be selected.  And if a mount that was under way fails meanwhile, what the rescan finds is
polled anew, although the same is selected as when the rescan began. -/
theorem polls_differ_after_rescan :
    let config : AppConfig := { baseUrl := "http://a" }
    let url := "http://a/streams"
    let one : Event := .begin (.serve url { body := "[\"a\"]".toUTF8.toList })
    let two : Event := .begin (.serve url { body := "[\"a\",\"b\"]".toUTF8.toList })
    let failing : Event := .begin (.serve url { status := 500 })
    let rescan : Event := .begin .rescan
    let mounted : List Event := [one, .begin .mount, .answer 0, .poll]
    let polls (es : List Event) := (polled (.new config 0) es).map (·.url)
    let later : List Event := [.begin (.select ["b"]), .poll]
    let s := sessionAfter config 0 (mounted ++ [two])
    let t := sessionAfter config 0 (mounted ++ [two, rescan])
    let mounting := mounted ++ [failing, .begin .mount, one]
    let u := sessionAfter config 0 mounting
    let v := sessionAfter config 0 (mounting ++ [rescan, .answer 0, .answer 0])
    (s.dashboard.catalog.isLoaded = true ∧ rescan.isQuiet s = true ∧
        t.dashboard.catalog.isLoaded = true ∧ (Event.answer 0).isQuiet t = true ∧
        polls (mounted ++ [two] ++ [rescan, .answer 0] ++ later) =
          ["http://a/meta/a/main", "http://a/meta/b/main"] ∧
        polls (mounted ++ [two] ++ later) = ["http://a/meta/a/main"]) ∧
      u.dashboard.catalog.isLoaded = true ∧ v.dashboard.catalog.isLoaded = true ∧
        (v.dashboard.selection == u.dashboard.selection) = true ∧
        v.timeline.poller.plan.generation ≠ u.timeline.poller.plan.generation ∧
        polls (mounting ++ [rescan, .answer 0, .answer 0, .poll]) =
          ["http://a/meta/a/main", "http://a/meta/a/main"] ∧
        polls (mounting ++ [.answer 0, .poll]) = ["http://a/meta/a/main"] := by
  decide +kernel

end VideoWall.Run
