import Mathlib.Data.List.Induction
import VideoWall.Proofs.Discoveries
import VideoWall.Proofs.Polled

/-!
# Selections

Streams are selected on demand, and every catalog that is found has its say: a rescan leaves of the
selection what the catalog has, and a mount or a switch selects the first streams of the catalog.
Answers come at any time, so that what a rescan leaves is of the selection in force when its answer
comes, not of the one when it was sent.

    a turn keeps the selection, empties it, selects on demand or finds a catalog   (selection_cases)
    the selection is what was selected last and every catalog since has (selection_of_latest_select)
    a stream has two tiles only if a catalog had it twice                      (repeated_in_catalog)
    what is selected when a catalog is found, be it the first or not    (selection_of_first_catalog)
-/

namespace VideoWall

/-! ## Streams that are told apart -/

/-- Whether no two of these ids are the same stream. -/
def StreamId.Distinct (ids : List StreamId) : Prop := ids.Pairwise fun a b => (a == b) = false

namespace StreamId

instance (ids : List StreamId) : Decidable (Distinct ids) :=
  inferInstanceAs (Decidable (ids.Pairwise fun a b => (a == b) = false))

theorem pairwise_distinctBy {α : Type} (stream : α → StreamId) (l : List α) :
    (distinctBy stream l).Pairwise fun a b => (stream a == stream b) = false := by
  induction l with
  | nil => exact .nil
  | cons a l ih =>
    refine .cons ?_ (ih.filter _)
    intro b hb
    have hne : (stream b == stream a) = false := by simpa using (List.mem_filter.1 hb).2
    rw [BEq.comm]
    exact hne

theorem distinct_distinct (ids : List StreamId) : Distinct (distinct ids) :=
  pairwise_distinctBy id ids

end StreamId

/-! ## What a turn does to the selection -/

/-- What a catalog leaves of a selection. -/
def narrow (ids streams : List StreamId) : List StreamId := ids.filter fun id => streams.contains id

namespace Turn

/-- Whether the turn selects streams on demand, and is not refused. -/
def selects (s : Session) : Turn → Bool
  | select raws => (s.dashboard.select raws).isOk
  | _ => false

/-- The catalog that a turn finds: that of an answer from the address in force. -/
def found? (s : Session) : Turn → Option (List StreamId)
  | answer n => s.discoveries[n]?.bind fun d =>
      if d.baseUrl = s.dashboard.baseUrl then (decodeStreams d.reply.outcome).toOption else none
  | _ => none

/-- Whether no mount and no switch comes to anything in this turn. -/
def onlyRescans (s : Session) : Turn → Bool
  | switch text => Dashboard.baseOf text == ""
  | answer n => s.discoveries[n]?.all fun d => d.keepSelection || d.baseUrl != s.dashboard.baseUrl
  | _ => true

theorem found?_answer {s : Session} {n : Nat} {d : Discovery} {streams : List StreamId}
    (hd : s.discoveries[n]? = some d) (hbase : d.baseUrl = s.dashboard.baseUrl)
    (hok : decodeStreams d.reply.outcome = .ok streams) : (answer n).found? s = some streams := by
  simp only [found?, hd, Option.bind_some, if_pos hbase, hok]
  rfl

/-- Only an answer finds a catalog. -/
theorem eq_of_found? {s : Session} {t : Turn} {streams : List StreamId}
    (h : t.found? s = some streams) :
    ∃ n d, t = answer n ∧ s.discoveries[n]? = some d ∧ d.baseUrl = s.dashboard.baseUrl ∧
      decodeStreams d.reply.outcome = .ok streams := by
  cases t with
  | answer n =>
    obtain ⟨d, hd, h⟩ := Option.bind_eq_some_iff.1 h
    split at h
    · next hbase => exact ⟨n, d, rfl, hd, hbase, eq_ok_of_toOption h⟩
    · cases h
  | _ => cases h

/-- A catalog that is found is applied. -/
theorem dashboard?_of_found {s : Session} {n : Nat} {d : Discovery} {streams : List StreamId}
    (hd : s.discoveries[n]? = some d) (hbase : d.baseUrl = s.dashboard.baseUrl)
    (hok : decodeStreams d.reply.outcome = .ok streams) :
    (answer n).dashboard? s =
      some { s.dashboard with
        selection := s.dashboard.selectionFrom d.keepSelection streams
        catalog := .loaded streams
        layoutVersion := s.dashboard.layoutVersion + 1 } := by
  rw [dashboard?_answer hd, hok, Dashboard.discovered, if_neg (fun hne => hne hbase.symm)]

theorem dashboard_of_found {s : Session} {n : Nat} {d : Discovery} {streams : List StreamId}
    (hd : s.discoveries[n]? = some d) (hbase : d.baseUrl = s.dashboard.baseUrl)
    (hok : decodeStreams d.reply.outcome = .ok streams) :
    ((answer n).next s).dashboard =
      { s.dashboard with
        selection := s.dashboard.selectionFrom d.keepSelection streams
        catalog := .loaded streams
        layoutVersion := s.dashboard.layoutVersion + 1 } := by
  rw [dashboard_next, dashboard?_of_found hd hbase hok, Option.getD_some]

/-- An answer that makes another dashboard hands its plan to the poller. -/
theorem next_answer_of_some {s : Session} {n : Nat} {e : Dashboard}
    (h : (answer n).dashboard? s = some e) :
    ((answer n).next s).dashboard = e ∧
      ((answer n).next s).timeline = s.timeline.apply (e.update false) := by
  obtain ⟨d, hd, hmade⟩ := Option.bind_eq_some_iff.1 h
  rw [next_answer_some hd, dashboard_finish, timeline_finish]
  simp only [hmade, Option.getD_some, and_self]

/-- An answer that makes no other dashboard has found no catalog. -/
theorem unfound_of_dashboard? {s : Session} {n : Nat} (h : (answer n).dashboard? s = none) :
    (answer n).found? s = none := by
  cases hfound : (answer n).found? s with
  | none => rfl
  | some streams =>
    obtain ⟨_, d, hn, hd, hbase, hok⟩ := eq_of_found? hfound
    cases hn
    rw [dashboard?_of_found hd hbase hok] at h
    cases h

/-- An answer that finds no catalog leaves the selection as it is. -/
theorem selection_of_unfound {s : Session} {n : Nat} (h : (answer n).found? s = none) :
    ((answer n).next s).dashboard.selection = s.dashboard.selection := by
  rw [dashboard_next]
  cases hmade : (answer n).dashboard? s with
  | none => rfl
  | some e =>
    obtain ⟨d, hd, hmade⟩ := Option.bind_eq_some_iff.1 hmade
    obtain ⟨hbase, ⟨streams, hok, -⟩ | ⟨failure, -, -, rfl⟩⟩ := Dashboard.eq_of_discovered hmade
    · rw [found?_answer hd hbase.symm hok] at h
      cases h
    · rfl

/-- All that a turn can do to the selection: nothing, empty it in a switch, select on demand, or
find a catalog. -/
theorem selection_cases (s : Session) (t : Turn) :
    ((t.next s).dashboard.selection = s.dashboard.selection ∧ t.selects s = false ∧
        t.found? s = none) ∨
      (∃ text, t = switch text ∧ Dashboard.baseOf text ≠ "" ∧
        (t.next s).dashboard.selection = []) ∨
      (∃ raws, t = select raws ∧ t.selects s = true ∧ t.found? s = none ∧
        (t.next s).dashboard.selection = StreamId.distinct (raws.map StreamId.parse)) ∨
      ∃ n d streams, t = answer n ∧ s.discoveries[n]? = some d ∧
        d.baseUrl = s.dashboard.baseUrl ∧ decodeStreams d.reply.outcome = .ok streams ∧
        (t.next s).dashboard.selection = s.dashboard.selectionFrom d.keepSelection streams := by
  cases t with
  | switch text =>
    rw [dashboard_next]
    cases hmade : s.dashboard.switch text with
    | error e =>
      left
      rw [dashboard?, hmade]
      exact ⟨rfl, rfl, rfl⟩
    | ok e =>
      right; left
      obtain ⟨hne, rfl⟩ := Dashboard.eq_of_switch hmade
      rw [dashboard?, hmade]
      exact ⟨text, rfl, hne, rfl⟩
  | select raws =>
    rw [dashboard_next]
    cases hmade : s.dashboard.select raws with
    | error e =>
      left
      rw [dashboard?, selects, hmade]
      exact ⟨rfl, rfl, rfl⟩
    | ok e =>
      right; right; left
      obtain ⟨streams, -, -, rfl⟩ := Dashboard.eq_of_select hmade
      rw [dashboard?, selects, hmade]
      exact ⟨raws, rfl, rfl, rfl, rfl⟩
  | answer n =>
    cases hfound : (answer n).found? s with
    | none => exact .inl ⟨selection_of_unfound hfound, rfl, rfl⟩
    | some streams =>
      right; right; right
      obtain ⟨m, d, hm, hd, hbase, hok⟩ := eq_of_found? hfound
      cases hm
      refine ⟨n, d, streams, rfl, hd, hbase, hok, ?_⟩
      rw [dashboard_of_found hd hbase hok]
  | _ => exact .inl ⟨rfl, rfl, rfl⟩

/-! ## What is selected in the course of a run -/

/-- Whether this is so of every turn of a run. -/
def throughout (p : Session → Turn → Bool) (s : Session) : List Turn → Bool
  | [] => true
  | t :: ts => p s t && throughout p (t.next s) ts

theorem throughout_append (p : Session → Turn → Bool) (s : Session) (ts us : List Turn) :
    throughout p s (ts ++ us) = (throughout p s ts && throughout p (run s ts) us) := by
  induction ts generalizing s with
  | nil => rfl
  | cons t ts ih =>
    show (p s t && throughout p (t.next s) (ts ++ us)) = _
    rw [ih, ← Bool.and_assoc]
    rfl

/-- Whether nothing is selected on demand in this turn. -/
def leaves (s : Session) (t : Turn) : Bool := !t.selects s

/-- The catalogs that are found in turns, in order. -/
def found (s : Session) : List Turn → List (List StreamId)
  | [] => []
  | t :: ts => (t.found? s).toList ++ found (t.next s) ts

/-- A turn of a rescan leaves what the catalog has, and any other turn that selects nothing leaves
all. -/
theorem selection_of_leaves {s : Session} {t : Turn} (hr : t.onlyRescans s = true)
    (hl : t.leaves s = true) :
    (t.next s).dashboard.selection = (t.found? s).toList.foldl narrow s.dashboard.selection := by
  rcases selection_cases s t with ⟨hsame, -, hfound⟩ | ⟨text, rfl, hne, -⟩ |
    ⟨raws, rfl, hselects, -⟩ | ⟨n, d, streams, rfl, hd, hbase, hok, hsel⟩
  · rw [hfound, hsame]
    rfl
  · simp only [onlyRescans, beq_iff_eq] at hr
    exact absurd hr hne
  · rw [leaves, hselects] at hl
    cases hl
  · have hkeep : d.keepSelection = true := by simpa [onlyRescans, hd, hbase] using hr
    rw [hsel, found?_answer hd hbase hok, Dashboard.selectionFrom, if_pos hkeep]
    rfl

/-- As long as nothing else is selected, every catalog that is found leaves of the selection what it
has. -/
theorem selection_run {s : Session} {ts : List Turn} (hr : throughout onlyRescans s ts = true)
    (hl : throughout leaves s ts = true) :
    (run s ts).dashboard.selection = (found s ts).foldl narrow s.dashboard.selection := by
  induction ts generalizing s with
  | nil => rfl
  | cons t ts ih =>
    simp only [throughout, Bool.and_eq_true] at hr hl
    rw [found, List.foldl_append, ← selection_of_leaves hr.1 hl.1]
    exact ih hr.2 hl.2

/-- While rescans and selections overlap, and no mount and no switch comes to anything, the
selection is that of the latest select that was not refused, each stream where it was named first,
or else the one there was before; and of that, what all the catalogs have that were found since, one
after another.  An answer never adds a stream and never changes the order. -/
theorem selection_of_latest_select (s : Session) (ts : List Turn)
    (hr : throughout onlyRescans s ts = true) :
    (∀ before raws later, ts = before ++ select raws :: later →
        (select raws).selects (run s before) = true →
        let t := run s (before ++ [select raws])
        throughout leaves t later = true →
        (run s ts).dashboard.selection =
          (found t later).foldl narrow (StreamId.distinct (raws.map StreamId.parse))) ∧
      (throughout leaves s ts = true →
        (run s ts).dashboard.selection = (found s ts).foldl narrow s.dashboard.selection) ∧
      ∀ before n later, ts = before ++ answer n :: later →
        (run s (before ++ [answer n])).dashboard.selection.Sublist
          (run s before).dashboard.selection := by
  refine ⟨?_, selection_run hr, ?_⟩
  · rintro before raws later rfl hselects t hl
    have hsplit : run s (before ++ select raws :: later) = run t later := by
      rw [← run_append, List.append_assoc]
      rfl
    have hlater : throughout onlyRescans t later = true := by
      rw [List.append_cons, throughout_append, Bool.and_eq_true] at hr
      exact hr.2
    have hchosen : t.dashboard.selection = StreamId.distinct (raws.map StreamId.parse) := by
      have ht : t = (select raws).next (run s before) := run_append s before [select raws]
      rw [ht]
      rcases selection_cases (run s before) (select raws) with ⟨-, hrefused, -⟩ |
        ⟨text, htext, -⟩ | ⟨others, hothers, -, -, hsel⟩ | ⟨n, d, streams, hn, -⟩
      · rw [hselects] at hrefused
        cases hrefused
      · cases htext
      · cases hothers
        exact hsel
      · cases hn
    rw [hsplit, selection_run hlater hl, hchosen]
  · rintro before n later rfl
    rw [throughout_append, Bool.and_eq_true] at hr
    have hn : (answer n).onlyRescans (run s before) = true := (Bool.and_eq_true_iff.1 hr.2).1
    rw [run_append]
    show ((answer n).next (run s before)).dashboard.selection.Sublist _
    rw [selection_of_leaves hn rfl]
    cases (answer n).found? (run s before) with
    | none => exact List.Sublist.refl _
    | some streams => exact List.filter_sublist

/-- Two streams are selected while two rescans are under way, of which the later fails and the
earlier finds one of them gone. -/
theorem selection_after_overlapping_rescans :
    let url := "http://localhost:8080/streams"
    let s := history {} 0
      [serve url { body := "[\"a\",\"b\",\"c\"]".toUTF8.toList }, send false, answer 0]
    let before := [serve url { body := "[\"c/main\",\"b\"]".toUTF8.toList }, send true,
      serve url { status := 500 }, send true]
    let raws := ["c", "a", "c/main"]
    let later := [answer 1, answer 0]
    let t := run s (before ++ [select raws])
    let ts := before ++ select raws :: later
    throughout onlyRescans s ts = true ∧ (select raws).selects (run s before) = true ∧
      throughout leaves t later = true ∧ (found t later).length = 1 ∧
      (run s ts).dashboard.selection =
        (found t later).foldl narrow (StreamId.distinct (raws.map StreamId.parse)) ∧
      (run s ts).dashboard.selection.map StreamId.raw = ["c"] := by
  intro url s before raws later t ts
  have hr : throughout onlyRescans s ts = true := by decide +kernel
  have hselects : (select raws).selects (run s before) = true := by decide +kernel
  have hl : throughout leaves t later = true := by decide +kernel
  have hlatest := (selection_of_latest_select s ts hr).1 before raws later rfl hselects hl
  exact ⟨hr, hselects, hl, by decide +kernel, hlatest, by decide +kernel⟩

/-! ## Streams that are selected twice -/

theorem history_concat (config : AppConfig) (start : Int) (ts : List Turn) (t : Turn) :
    history config start (ts ++ [t]) = t.next (history config start ts) := by
  simp only [history, run, List.foldl_append, List.foldl_cons, List.foldl_nil]

theorem defaultSelection_history (config : AppConfig) (start : Int) (ts : List Turn) :
    (history config start ts).dashboard.defaultSelection = config.defaultSelection := by
  refine run_of_change (P := fun d => d.defaultSelection = config.defaultSelection) ?_
    (.new config start) ts rfl
  intro d e hd hchange
  cases hchange <;> exact hd

/-- Whether the selection is what there is left of the first streams of a catalog that a mount or a
switch has found, and no stream was selected on demand since. -/
def FromCatalog (config : AppConfig) (start : Int) (ts : List Turn) (streams : List StreamId) :
    Prop :=
  ∃ before n later d, ts = before ++ answer n :: later ∧
    (history config start before).discoveries[n]? = some d ∧ d.keepSelection = false ∧
    d.baseUrl = (history config start before).dashboard.baseUrl ∧
    decodeStreams d.reply.outcome = .ok streams ∧
    throughout leaves (history config start (before ++ [answer n])) later = true ∧
    (history config start ts).dashboard.selection.Sublist (streams.take config.defaultSelection)

variable {config : AppConfig} {start : Int} {ts : List Turn} {streams : List StreamId}

/-- What is left of the selection is still left of the catalog. -/
theorem FromCatalog.concat (h : FromCatalog config start ts streams) {t : Turn}
    (hl : t.leaves (history config start ts) = true)
    (hsub : (history config start (ts ++ [t])).dashboard.selection.Sublist
      (history config start ts).dashboard.selection) :
    FromCatalog config start (ts ++ [t]) streams := by
  obtain ⟨before, n, later, d, rfl, hd, hkeep, hbase, hok, hleaves, hleft⟩ := h
  refine ⟨before, n, later ++ [t], d, by simp, hd, hkeep, hbase, hok, ?_, hsub.trans hleft⟩
  have hrun : run (history config start (before ++ [answer n])) later =
      history config start (before ++ answer n :: later) := by
    rw [history, ← run_append, List.append_assoc]
    rfl
  rw [throughout_append, hleaves, hrun, throughout, throughout, hl]
  rfl

/-- Whether no stream is selected twice, unless a catalog has one twice among its first streams and
the selection is what there is left of them. -/
def Traced (config : AppConfig) (start : Int) (ts : List Turn) : Prop :=
  StreamId.Distinct (history config start ts).dashboard.selection ∨
    ∃ streams, ¬StreamId.Distinct (streams.take config.defaultSelection) ∧
      FromCatalog config start ts streams

/-- A part of a selection has its streams from where the selection has them. -/
theorem Traced.of_part (h : Traced config start ts) {t : Turn}
    (hl : t.leaves (history config start ts) = true)
    (hsub : (t.next (history config start ts)).dashboard.selection.Sublist
      (history config start ts).dashboard.selection) : Traced config start (ts ++ [t]) := by
  rw [← history_concat] at hsub
  rcases h with hdistinct | ⟨streams, htwice, hfrom⟩
  · exact .inl (List.Pairwise.sublist hsub hdistinct)
  · exact .inr ⟨streams, htwice, hfrom.concat hl hsub⟩

theorem traced (config : AppConfig) (start : Int) (ts : List Turn) : Traced config start ts := by
  induction ts using List.reverseRecOn with
  | nil => exact .inl .nil
  | append_singleton ts t ih =>
    have hnext := history_concat config start ts t
    rcases selection_cases (history config start ts) t with ⟨hsame, hrefused, -⟩ |
      ⟨text, rfl, -, hempty⟩ | ⟨raws, rfl, -, -, hchosen⟩ |
      ⟨n, d, streams, rfl, hd, hbase, hok, hsel⟩
    · have hl : t.leaves (history config start ts) = true := by
        rw [leaves, hrefused, Bool.not_false]
      exact ih.of_part hl (hsame ▸ List.Sublist.refl _)
    · left
      rw [hnext, hempty]
      exact .nil
    · left
      rw [hnext, hchosen]
      exact StreamId.distinct_distinct _
    · cases hkeep : d.keepSelection with
      | true =>
        refine ih.of_part rfl ?_
        rw [hsel, hkeep, Dashboard.selectionFrom, if_pos rfl]
        exact List.filter_sublist
      | false =>
        have hfirst : (history config start (ts ++ [answer n])).dashboard.selection =
            streams.take config.defaultSelection := by
          rw [hnext, hsel, hkeep, Dashboard.selectionFrom, if_neg Bool.false_ne_true,
            defaultSelection_history]
        by_cases hdistinct : StreamId.Distinct (streams.take config.defaultSelection)
        · left
          rw [hfirst]
          exact hdistinct
        · right
          exact ⟨streams, hdistinct, ts, n, [], d, rfl, hd, hkeep, hbase, hok, rfl,
            hfirst ▸ List.Sublist.refl _⟩

/-- No stream is selected twice and none has two tiles, unless a mount or a switch has found a
catalog that has a stream twice among its first ones, of which all that is selected is still
left. -/
theorem repeated_in_catalog (config : AppConfig) (start : Int) (ts : List Turn) (now : Instant) :
    let s := history config start ts
    (StreamId.Distinct s.dashboard.selection ∧
        (s.snapshot now).view.tiles.Pairwise fun t u => (t.stream == u.stream) = false) ∨
      ∃ streams, ¬StreamId.Distinct (streams.take config.defaultSelection) ∧
        FromCatalog config start ts streams := by
  intro s
  rcases traced config start ts with hdistinct | hrepeated
  · left
    have hshown : StreamId.Distinct s.dashboard.shown := by
      unfold Dashboard.shown
      split
      · exact hdistinct
      · exact .nil
    rw [← Dashboard.map_stream_tiles (withinCatalog_history config start ts) s.timeline.stores now]
      at hshown
    exact ⟨hdistinct, List.pairwise_map.1 hshown⟩
  · exact .inr hrepeated

/-- A catalog has one stream in two spellings, and a mount selects both. -/
theorem two_tiles_of_one_stream :
    let url := "http://localhost:8080/streams"
    let s := history {} 0
      [serve url { body := "[\"cam1\",\"cam1/main\"]".toUTF8.toList }, send false, answer 0]
    ¬StreamId.Distinct s.dashboard.selection ∧
      (s.snapshot s.now).view.tiles.map (·.stream.canonical) = ["cam1/main", "cam1/main"] := by
  decide +kernel

/-! ## The selection from a first catalog -/

/-- Only a catalog that is found is loaded. -/
theorem isLoaded_of_unfound {s : Session} {t : Turn} (h : t.found? s = none)
    (hl : (t.next s).dashboard.catalog.isLoaded = true) : s.dashboard.catalog.isLoaded = true := by
  rw [dashboard_next] at hl
  cases hmade : t.dashboard? s with
  | none =>
    rw [hmade] at hl
    exact hl
  | some e =>
    rw [hmade, Option.getD_some] at hl
    cases t with
    | switch text =>
      simp only [dashboard?] at hmade
      obtain ⟨-, rfl⟩ := Dashboard.eq_of_switch (eq_ok_of_toOption hmade)
      cases hl
    | answer n =>
      obtain ⟨d, hd, hmade⟩ := Option.bind_eq_some_iff.1 hmade
      obtain ⟨hbase, ⟨streams, hok, -⟩ | ⟨failure, -, -, rfl⟩⟩ := Dashboard.eq_of_discovered hmade
      · rw [found?_answer hd hbase.symm hok] at h
        cases h
      · cases hl
    | select raws =>
      simp only [dashboard?] at hmade
      obtain ⟨streams, -, -, rfl⟩ := Dashboard.eq_of_select (eq_ok_of_toOption hmade)
      exact hl
    | configure patch =>
      cases hmade
      exact hl
    | _ => cases hmade

/-- Nothing can be selected without a catalog. -/
theorem selects_of_unloaded {s : Session} (h : s.dashboard.catalog.isLoaded = false)
    (raws : List String) : (select raws).selects s = false := by
  cases hmade : s.dashboard.select raws with
  | error e =>
    rw [selects, hmade]
    rfl
  | ok e =>
    obtain ⟨streams, hc, -⟩ := Dashboard.eq_of_select hmade
    rw [hc] at h
    cases h

/-- Until a catalog is found, nothing comes to be selected. -/
theorem selection_before_found {s : Session} {ts : List Turn}
    (hnone : s.dashboard.catalog.isLoaded = false) (hsel : s.dashboard.selection = [])
    (hts : found s ts = []) : (run s ts).dashboard.selection = [] := by
  induction ts generalizing s with
  | nil => exact hsel
  | cons t ts ih =>
    rw [found, List.append_eq_nil_iff] at hts
    have hfound : t.found? s = none := Option.toList_eq_nil_iff.1 hts.1
    refine ih (s := t.next s) ?_ ?_ hts.2
    · rw [Bool.eq_false_iff] at hnone ⊢
      intro hl
      exact hnone (isLoaded_of_unfound hfound hl)
    · rcases selection_cases s t with ⟨hsame, -⟩ | ⟨text, -, -, hempty⟩ |
        ⟨raws, rfl, hselects, -⟩ | ⟨n, d, streams, rfl, hd, hbase, hok, -⟩
      · rw [hsame, hsel]
      · exact hempty
      · rw [selects_of_unloaded hnone raws] at hselects
        cases hselects
      · rw [found?_answer hd hbase hok] at hfound
        cases hfound

/-- A catalog is found, be it the first or not.  If a mount or a switch has asked for it, its first
streams are selected and have the tiles, whatever was selected before.  If a rescan has, it leaves
what it has of the selection from before; so if no catalog was found before, it leaves nothing
selected. -/
theorem selection_of_first_catalog (config : AppConfig) (start : Int) (ts : List Turn) (n : Nat)
    (d : Discovery) (streams : List StreamId)
    (hd : (history config start ts).discoveries[n]? = some d)
    (hbase : d.baseUrl = (history config start ts).dashboard.baseUrl)
    (hok : decodeStreams d.reply.outcome = .ok streams) (now : Instant) :
    let s := history config start ts
    let t := (answer n).next s
    let first := streams.take (min config.defaultSelection streams.length)
    t.dashboard.catalog = .loaded streams ∧
      (d.keepSelection = false → t.dashboard.selection = first ∧
        (t.snapshot now).view.tiles.map (·.stream) = first) ∧
      (d.keepSelection = true → t.dashboard.selection = narrow s.dashboard.selection streams ∧
        (found (.new config start) ts = [] → t.dashboard.selection = [])) := by
  intro s t first
  have hfirst : first = streams.take s.dashboard.defaultSelection := by
    rw [defaultSelection_history]
    exact List.take_eq_take_min.symm
  have hdashboard : t.dashboard = { s.dashboard with
      selection := s.dashboard.selectionFrom d.keepSelection streams
      catalog := .loaded streams
      layoutVersion := s.dashboard.layoutVersion + 1 } := dashboard_of_found hd hbase hok
  have hloaded : t.dashboard.catalog = .loaded streams := by rw [hdashboard]
  refine ⟨hloaded, fun hkeep => ?_, fun hkeep => ?_⟩
  · have hsel : t.dashboard.selection = first := by
      rw [hdashboard, hkeep, hfirst]
      rfl
    have hwithin : t.dashboard.WithinCatalog := by
      have ht : t = history config start (ts ++ [answer n]) :=
        (history_concat config start ts (answer n)).symm
      rw [ht]
      exact withinCatalog_history config start (ts ++ [answer n])
    have hshown : t.dashboard.shown = t.dashboard.selection := by
      rw [Dashboard.shown, hloaded]
      rfl
    exact ⟨hsel, (Dashboard.map_stream_tiles hwithin _ now).trans (hshown.trans hsel)⟩
  · have hsel : t.dashboard.selection = narrow s.dashboard.selection streams := by
      rw [hdashboard, hkeep]
      rfl
    refine ⟨hsel, fun hfound => ?_⟩
    have hempty : s.dashboard.selection = [] :=
      selection_before_found (s := .new config start) rfl rfl hfound
    rw [hsel, hempty]
    rfl

/-- The first mount fails, and the second one does what the first one should have done. -/
theorem selection_after_failed_mount :
    let url := "http://localhost:8080/streams"
    let config : AppConfig := {}
    let ts := [serve url { status := 500 }, send false, answer 0,
      serve url { body := "[\"a\",\"b\",\"c\"]".toUTF8.toList }, send false]
    let s := history config 0 ts
    let t := (answer 0).next s
    s.dashboard.catalog.isLoaded = false ∧ config.defaultSelection = 2 ∧
      ∃ (d : Discovery) (streams : List StreamId),
        s.discoveries[0]? = some d ∧ d.keepSelection = false ∧
        decodeStreams d.reply.outcome = .ok streams ∧ streams.length = 3 ∧
        t.dashboard.selection = streams.take (min config.defaultSelection streams.length) ∧
        (t.snapshot t.now).view.tiles.map (·.stream) =
          streams.take (min config.defaultSelection streams.length) := by
  intro url config ts s t
  have hnone : s.dashboard.catalog.isLoaded = false := by decide +kernel
  have hsent : s.discoveries[0]?.map (fun d => (d.keepSelection, d.baseUrl,
      (decodeStreams d.reply.outcome).toOption.map List.length)) =
        some (false, s.dashboard.baseUrl, some 3) := by
    decide +kernel
  obtain ⟨d, hd, hfound⟩ := Option.map_eq_some_iff.1 hsent
  simp only [Prod.mk.injEq, Option.map_eq_some_iff] at hfound
  obtain ⟨hkeep, hbase, streams, hok, hlength⟩ := hfound
  have hok : decodeStreams d.reply.outcome = .ok streams := eq_ok_of_toOption hok
  obtain ⟨-, hfirst, -⟩ :=
    selection_of_first_catalog config 0 ts 0 d streams hd hbase hok t.now
  refine ⟨hnone, rfl, d, streams, hd, hkeep, hok, hlength, ?_, (hfirst hkeep).2⟩
  dsimp only [t, s]
  exact (hfirst hkeep).1

/-- The first mount fails, and a rescan finds the streams but selects none. -/
theorem nothing_selected_by_rescan :
    let url := "http://localhost:8080/streams"
    let s := history {} 0 [serve url { status := 500 }, send false, answer 0,
      serve url { body := "[\"a\",\"b\",\"c\"]".toUTF8.toList }, send true]
    let t := (answer 0).next s
    s.dashboard.catalog.isLoaded = false ∧
      t.dashboard.catalog.streams?.map List.length = some 3 ∧
      t.dashboard.defaultSelection = 2 ∧ t.dashboard.selection.length = 0 ∧
      (t.snapshot t.now).view.tiles.length = 0 := by
  decide +kernel

end Turn

end VideoWall
