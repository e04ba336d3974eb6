import VideoWall.Proofs.Selections

/-!
# Selecting streams

A selection is a list of texts, in which a stream may be named more than once and in any spelling.
It is accepted as a whole or not at all.  Each stream of it is then selected where it is named
first, as it is spelled there; and if it is refused, the text that is told is the first one at fault.

    the first of equal streams stands for all of them              (pairwise_idxOf_distinct)
    a selection is accepted just if the catalog has all of it                 (select_cases)
    what is selected then, and what is told otherwise           (selected_of_known_streams)
-/

namespace VideoWall

/-! ## Where streams are named first -/

namespace StreamId

theorem mem_distinct_cons {a b : StreamId} {ids : List StreamId} :
    b ∈ distinct (a :: ids) ↔ b = a ∨ b ∈ distinct ids ∧ (b == a) = false := by
  show b ∈ a :: (distinct ids).filter (fun c => !(c == a)) ↔ _
  rw [List.mem_cons, List.mem_filter, Bool.not_eq_true']

theorem contains_distinct (ids : List StreamId) (id : StreamId) :
    (distinct ids).contains id = ids.contains id := by
  induction ids with
  | nil => rfl
  | cons a ids ih =>
    rw [Bool.eq_iff_iff, List.contains_cons, Bool.or_eq_true, ← ih]
    simp only [List.contains_iff_exists_mem_beq, mem_distinct_cons]
    constructor
    · rintro ⟨b, rfl | ⟨hb, -⟩, hid⟩
      · exact .inl hid
      · exact .inr ⟨b, hb, hid⟩
    · rintro (hid | ⟨b, hb, hid⟩)
      · exact ⟨a, .inl rfl, hid⟩
      · cases hba : b == a with
        | true => exact ⟨a, .inl rfl, BEq.trans hid hba⟩
        | false => exact ⟨b, .inr ⟨hb, hba⟩, hid⟩

/-- A stream keeps the spelling in which it is named first. -/
theorem find?_of_mem_distinct {ids : List StreamId} {id : StreamId} (h : id ∈ distinct ids) :
    ids.find? (· == id) = some id := by
  induction ids with
  | nil => cases h
  | cons a ids ih =>
    rcases mem_distinct_cons.1 h with rfl | ⟨hid, hne⟩
    · exact List.find?_cons_of_pos BEq.rfl
    · rw [BEq.comm] at hne
      rw [List.find?_cons, hne]
      exact ih hid

/-- Streams come in the order in which they are named first. -/
theorem pairwise_idxOf_distinct (ids : List StreamId) :
    (distinct ids).Pairwise fun a b => ids.idxOf a < ids.idxOf b := by
  induction ids with
  | nil => exact .nil
  | cons a ids ih =>
    have hlater : ∀ b ∈ (distinct ids).filter (fun c => !(c == a)),
        (a :: ids).idxOf b = ids.idxOf b + 1 := by
      intro b hb
      have hne : (a == b) = false := by
        rw [BEq.comm]
        simpa using (List.mem_filter.1 hb).2
      rw [List.idxOf_cons, hne, cond_false]
    refine .cons (fun b hb => ?_) ((ih.filter _).imp_of_mem fun {b c} hb hc hlt => ?_)
    · rw [hlater b hb, List.idxOf_cons, BEq.rfl, cond_true]
      exact Nat.succ_pos _
    · rw [hlater b hb, hlater c hc]
      exact Nat.succ_lt_succ hlt

end StreamId

/-! ## What is accepted -/

namespace Dashboard

/-- Whether there is a catalog and it has the stream that a text names. -/
def Knows (d : Dashboard) (raw : String) : Prop :=
  ∃ streams, d.catalog = .loaded streams ∧ ∃ id ∈ streams,
    id.source = (StreamId.parse raw).source ∧ id.channel = (StreamId.parse raw).channel

variable {d : Dashboard}

theorem knows_iff {streams : List StreamId} (hc : d.catalog = .loaded streams) {raw : String} :
    d.Knows raw ↔ streams.contains (StreamId.parse raw) = true := by
  rw [List.contains_iff_exists_mem_beq]
  constructor
  · rintro ⟨others, hothers, id, hid, hsource, hchannel⟩
    rw [Catalog.loaded.inj (hc.symm.trans hothers)]
    exact ⟨id, hid, StreamId.beq_iff.2 ⟨hsource.symm, hchannel.symm⟩⟩
  · rintro ⟨id, hid, hsame⟩
    obtain ⟨hsource, hchannel⟩ := StreamId.beq_iff.1 hsame
    exact ⟨streams, hc, id, hid, hsource.symm, hchannel.symm⟩

/-- A selection is accepted if there is a catalog that has all of it; otherwise the first text that
the catalog does not have is at fault or, without a catalog, the first text there is. -/
theorem select_cases (d : Dashboard) (raws : List String) :
    (d.catalog.isLoaded = true ∧ (∀ raw ∈ raws, d.Knows raw) ∧
        d.select raws = .ok { d with
          selection := StreamId.distinct (raws.map StreamId.parse)
          layoutVersion := d.layoutVersion + 1 }) ∨
      (d.catalog.isLoaded = true ∧ ∃ before raw later, raws = before ++ raw :: later ∧
        (∀ other ∈ before, d.Knows other) ∧ ¬d.Knows raw ∧
        d.select raws = .error (.unknownStream raw)) ∨
      (d.catalog.isLoaded = false ∧ d.select raws = .error (.unknownStream (raws.headD ""))) := by
  unfold select
  cases hc : d.catalog with
  | loaded streams =>
    cases hfirst : firstUnknown streams raws with
    | none =>
      left
      refine ⟨rfl, fun raw hraw => (knows_iff hc).2 ?_, by simp only [hfirst]⟩
      simpa using List.find?_eq_none.1 hfirst raw hraw
    | some raw =>
      right; left
      obtain ⟨hunknown, before, later, hsplit, hbefore⟩ := List.find?_eq_some_iff_append.1 hfirst
      refine ⟨rfl, before, raw, later, hsplit, fun other hother => (knows_iff hc).2 ?_, ?_,
        by simp only [hfirst]⟩
      · simpa using hbefore other hother
      · rw [knows_iff hc]
        simpa using hunknown
  | pending => exact .inr (.inr ⟨rfl, rfl⟩)
  | failed message => exact .inr (.inr ⟨rfl, rfl⟩)

end Dashboard

namespace Run

theorem begin_select (s : Session) (raws : List String) :
    begin s (.select raws) = match s.select raws with
      | .ok t => (t, .finished (.done (.ok ())))
      | .error e => (s, .finished (.done (.error e))) := rfl

/-- A selection is accepted just if there is a catalog and it has every stream that is named.  Then
each of these streams is selected once, no other is, they come in the order in which they are named
first and as they are spelled there; the layout version rises by one, and all else on the dashboard
stays as it is.  If the selection is refused, the session stays as it is, and the first text is told
that the catalog does not have or, without a catalog, the first text there is. -/
theorem selected_of_known_streams (s : Session) (raws : List String) :
    let d := s.dashboard
    let ids := raws.map StreamId.parse
    ((s.select raws).isOk = true ↔
        d.catalog.isLoaded = true ∧ ∀ raw ∈ raws, d.Knows raw) ∧
      match s.select raws with
      | .ok t =>
        let chosen := t.dashboard.selection
        begin s (.select raws) = (t, .finished (.done (.ok ()))) ∧
          StreamId.Distinct chosen ∧ (∀ id, chosen.contains id = ids.contains id) ∧
          (chosen.Pairwise fun a b => ids.idxOf a < ids.idxOf b) ∧
          (∀ id ∈ chosen, ids.find? (· == id) = some id) ∧
          t.dashboard = { d with selection := chosen, layoutVersion := d.layoutVersion + 1 }
      | .error e =>
        begin s (.select raws) = (s, .finished (.done (.error e))) ∧
          (d.catalog.isLoaded = true →
            ∃ before raw later, raws = before ++ raw :: later ∧
              (∀ other ∈ before, d.Knows other) ∧ ¬d.Knows raw ∧ e = .unknownStream raw) ∧
          (d.catalog.isLoaded = false → e = .unknownStream (raws.headD "")) := by
  intro d ids
  rw [begin_select]
  rcases d.select_cases raws with ⟨hloaded, hknown, hok⟩ |
    ⟨hloaded, before, raw, later, hsplit, hbefore, hunknown, herror⟩ | ⟨hunloaded, herror⟩
  · rw [Session.select, hok]
    exact ⟨⟨fun _ => ⟨hloaded, hknown⟩, fun _ => rfl⟩, rfl, StreamId.distinct_distinct ids,
      StreamId.contains_distinct ids, StreamId.pairwise_idxOf_distinct ids,
      fun id hid => StreamId.find?_of_mem_distinct hid, rfl⟩
  · have hraw : raw ∈ raws := hsplit ▸ List.mem_append_right before List.mem_cons_self
    rw [Session.select, herror]
    refine ⟨⟨fun haccepted => ?_, fun hall => absurd (hall.2 raw hraw) hunknown⟩, rfl,
      fun _ => ⟨before, raw, later, hsplit, hbefore, hunknown, rfl⟩, fun hunloaded => ?_⟩
    · cases haccepted
    · rw [hloaded] at hunloaded
      cases hunloaded
  · have hnone : d.catalog.isLoaded ≠ true := Bool.eq_false_iff.1 hunloaded
    rw [Session.select, herror]
    refine ⟨⟨fun haccepted => ?_, fun hall => absurd hall.1 hnone⟩, rfl,
      fun hloaded => absurd hloaded hnone, fun _ => rfl⟩
    cases haccepted

end Run

end VideoWall
