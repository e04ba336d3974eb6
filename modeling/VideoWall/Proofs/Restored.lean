import VideoWall.Proofs.Numbers
import VideoWall.Proofs.Prints
import VideoWall.Proofs.Settings

/-!
# Settings that are written and read

Settings are answered as an object with every field, and the same text is read as settings and as a
patch.  A record and a patch name their fields one by one, and a name that only one of them knew
would be passed over in silence; here they are all read, each as what was written.  Whoever keeps
the answer to a patch can post it again at any time and restores the settings of that time.

A float is taken to be restored from its shortest text, which is not true of all: the reader rounds
more than once.

    a printed number is read as the number                  (spells_natural, spells_binary64)
    printed settings are read as the settings                        (spells_record, spells_patch)
    the answer to a patch restores the settings in force then           (restored_by_own_answer)
-/

namespace VideoWall

namespace Json

/-! ## Scalars -/

/-- Whether a float is read from its shortest text. -/
def ReadsBack (x : Binary64) : Prop := Decoder.binary64 x.shortest.toUTF8.toList = .ok (x, [])

theorem spells_toDigits {wanted : Wanted} {max n : Nat} (hmax : max ≤ maxSignificand)
    (hn : n ≤ max) : Spells (Decoder.natural wanted max) (utf8 (Nat.toDigits 10 n)) n := by
  refine spells_of_number (number_toDigits (Nat.le_trans hn hmax)) fun b bs rest hb hread => ?_
  have hfits : 0 ≤ (n : Int) ∧ (n : Int) ≤ max := by omega
  rw [Decoder.natural, if_pos hb, hread]
  simp only [if_pos hfits, Int.toNat_natCast]

theorem spells_natural {wanted : Wanted} {max n : Nat} (hmax : max ≤ maxSignificand)
    (hn : n ≤ max) (layout : Option Nat) :
    Spells (Decoder.natural wanted max) (utf8 ((Json.nat n).chars layout)) n := by
  have htext : (Json.nat n).chars layout = Nat.toDigits 10 n := by
    rw [nat, chars, intChars, if_neg (by omega), Int.natAbs_natCast]
  rw [htext]
  exact spells_toDigits hmax hn

/-- What is a float by itself is one whatever follows. -/
theorem spells_of_binary64 {text : Bytes} {x : Binary64} (h : Decoder.binary64 text = .ok (x, [])) :
    Spells Decoder.binary64 text x := by
  cases text with
  | nil => cases h
  | cons b bs =>
    rw [Decoder.binary64] at h
    split at h
    · split at h
      · cases h
      · next i r hread =>
        cases h
        refine spells_of_number hread fun b bs rest hb hread => ?_
        rw [Decoder.binary64, if_pos hb, hread]
      · next y r hread =>
        cases h
        refine spells_of_number hread fun b bs rest hb hread => ?_
        rw [Decoder.binary64, if_pos hb, hread]
    · exact absurd h (mismatch_ne_ok _ _ _)

theorem spells_binary64 {x : Binary64} (hfinite : x.isFinite = true) (hx : ReadsBack x)
    (layout : Option Nat) : Spells Decoder.binary64 (utf8 ((Json.float x).chars layout)) x := by
  have htext : utf8 ((Json.float x).chars layout) = x.shortest.toUTF8.toList := by
    rw [chars, floatChars, if_pos hfinite, toList_toUTF8]
  rw [htext]
  exact spells_of_binary64 hx

theorem spells_boolean (b : Bool) (layout : Option Nat) :
    Spells Decoder.boolean (utf8 ((Json.bool b).chars layout)) b := by
  cases b with
  | false =>
    refine ⟨⟨by decide, by decide⟩, fun rest _ => ?_⟩
    have hword := word_append afterF rest
    have hbytes : utf8 ((Json.bool false).chars layout) = 0x66 :: afterF := by
      rw [afterF, toList_toUTF8]
      rfl
    rw [hbytes, List.cons_append, Decoder.boolean, hword]
    rfl
  | true =>
    refine ⟨⟨by decide, by decide⟩, fun rest _ => ?_⟩
    have hword := word_append afterT rest
    have hbytes : utf8 ((Json.bool true).chars layout) = 0x74 :: afterT := by
      rw [afterT, toList_toUTF8]
      rfl
    rw [hbytes, List.cons_append, Decoder.boolean, hword]
    rfl

/-- What is no `null` and is read as a value is read as one that may be missing. -/
theorem Spells.optional {α : Type} {item : Decoder α} {text : Bytes} {a : α} {wanted : Wanted}
    (h : Spells item text a)
    (hnull : ∀ bs, item (0x6e :: bs) = Decoder.mismatch wanted (0x6e :: bs)) :
    Spells (Decoder.optional item) text (some a) := by
  refine ⟨h.start, fun rest hrest => ?_⟩
  have hread := h.read rest hrest
  unfold Decoder.optional
  split
  · next bs heq =>
    rw [heq, hnull] at hread
    exact absurd hread (mismatch_ne_ok _ _ _)
  · rw [hread]
    rfl

theorem takes_field {σ α : Type} {r : Record σ} {key : String} {item : Decoder α}
    {set : α → σ → σ} {text : Bytes} {a : α} {change : σ → σ}
    (hf : r.fields.find? (·.name == key) = some (field key item set)) (h : Spells item text a)
    (hchange : set a = change) : r.Takes key text change :=
  ⟨_, hf, hchange ▸ h.map set⟩

end Json

open Json

/-! ## Settings and patches -/

namespace RefreshConfig

variable {c : RefreshConfig}

theorem InRange.isFinite (h : c.InRange) : c.timeoutS.isFinite = true := by
  obtain ⟨rank, hrank, -, hhigh⟩ := timeoutInRange_iff.1 h.timeoutS
  rw [hrank]
  exact decide_eq_true (Nat.lt_of_le_of_lt hhigh (by decide))

/-- The names under which settings are written. -/
def keys : List String :=
  ["interval_ms", "timeout_s", "columns", "show_meta", "show_links", "running"]

theorem nodup_keys : keys.Nodup := by decide

/-- The members of written settings, each with what it does to settings that are read. -/
def entries (c : RefreshConfig) : List (Entry RefreshConfig) :=
  [⟨"interval_ms", .nat c.intervalMs, fun d => { d with intervalMs := c.intervalMs }⟩,
    ⟨"timeout_s", .float c.timeoutS, fun d => { d with timeoutS := c.timeoutS }⟩,
    ⟨"columns", .nat c.columns, fun d => { d with columns := c.columns }⟩,
    ⟨"show_meta", .bool c.showMeta, fun d => { d with showMeta := c.showMeta }⟩,
    ⟨"show_links", .bool c.showLinks, fun d => { d with showLinks := c.showLinks }⟩,
    ⟨"running", .bool c.running, fun d => { d with running := c.running }⟩]

/-- The members of written settings, each with what it does to a patch that is read. -/
def patchEntries (c : RefreshConfig) : List (Entry ConfigPatch) :=
  [⟨"interval_ms", .nat c.intervalMs, fun p => { p with intervalMs := some c.intervalMs }⟩,
    ⟨"timeout_s", .float c.timeoutS, fun p => { p with timeoutS := some c.timeoutS }⟩,
    ⟨"columns", .nat c.columns, fun p => { p with columns := some c.columns }⟩,
    ⟨"show_meta", .bool c.showMeta, fun p => { p with showMeta := some c.showMeta }⟩,
    ⟨"show_links", .bool c.showLinks, fun p => { p with showLinks := some c.showLinks }⟩,
    ⟨"running", .bool c.running, fun p => { p with running := some c.running }⟩]

/-- The patch that writes every setting. -/
def toPatch (c : RefreshConfig) : ConfigPatch where
  intervalMs := some c.intervalMs
  timeoutS := some c.timeoutS
  columns := some c.columns
  showMeta := some c.showMeta
  showLinks := some c.showLinks
  running := some c.running

theorem apply_toPatch (h : c.InRange) (b : RefreshConfig) : b.apply c.toPatch = c :=
  clamped_eq_self_iff.2 h

section

variable (h : c.InRange) (hback : ReadsBack c.timeoutS) (layout : Option Nat)

include h

theorem InRange.spells_intervalMs :
    Spells Decoder.u64 (utf8 ((Json.nat c.intervalMs).chars layout)) c.intervalMs :=
  spells_natural (Nat.le_refl _) (Nat.le_trans h.intervalMs.2 (by decide)) layout

theorem InRange.spells_columns :
    Spells Decoder.size (utf8 ((Json.nat c.columns).chars layout)) c.columns :=
  spells_natural (Nat.le_refl _) (Nat.le_trans h.columns.2 (by decide)) layout

include hback

/-- What is printed for settings is read as the settings. -/
theorem spells_record : Spells record.decode (utf8 (c.toJson.chars layout)) c := by
  have htakes : ∀ e ∈ c.entries,
      record.Takes e.key (utf8 (e.value.chars (deeper layout))) e.set := by
    simp only [entries, List.forall_mem_cons, List.not_mem_nil, false_implies, implies_true,
      and_true]
    exact ⟨takes_field rfl (h.spells_intervalMs _) rfl,
      takes_field rfl (spells_binary64 h.isFinite hback _) rfl,
      takes_field rfl (h.spells_columns _) rfl, takes_field rfl (spells_boolean _ _) rfl,
      takes_field rfl (spells_boolean _ _) rfl, takes_field rfl (spells_boolean _ _) rfl⟩
  exact Json.spells_record htakes nodup_keys (by simp [record, field])

/-- What is printed for settings is read as the patch that writes them all. -/
theorem spells_patch :
    Spells ConfigPatch.record.decode (utf8 (c.toJson.chars layout)) c.toPatch := by
  have htakes : ∀ e ∈ c.patchEntries,
      ConfigPatch.record.Takes e.key (utf8 (e.value.chars (deeper layout))) e.set := by
    simp only [patchEntries, List.forall_mem_cons, List.not_mem_nil, false_implies, implies_true,
      and_true]
    exact ⟨takes_field rfl ((h.spells_intervalMs _).optional fun _ => rfl) rfl,
      takes_field rfl ((spells_binary64 h.isFinite hback _).optional fun _ => rfl) rfl,
      takes_field rfl ((h.spells_columns _).optional fun _ => rfl) rfl,
      takes_field rfl ((spells_boolean _ _).optional fun _ => rfl) rfl,
      takes_field rfl ((spells_boolean _ _).optional fun _ => rfl) rfl,
      takes_field rfl ((spells_boolean _ _).optional fun _ => rfl) rfl⟩
  exact Json.spells_record htakes nodup_keys (by simp [ConfigPatch.record, field])

end

end RefreshConfig

/-! ## Requests -/

namespace Http

variable {s t : Session} {r : Request}

theorem status_of_readBody {σ : Type} {record : Record σ} {refused : Response}
    (h : readBody record r = .error refused) : refused.status ≠ 200 := by
  unfold readBody at h
  split at h
  · cases h
    decide
  · split at h
    · cases h
    · cases h
      unfold refusal
      split <;> exact of_decide_eq_true rfl

/-- A request that is read as a patch is answered with the settings that come of it. -/
theorem handle_config (hmethod : r.method = "POST") (hpath : Route.ofPath r.path = some .config)
    {p : ConfigPatch} (hread : readBody ConfigPatch.record r = .ok p) :
    handle s r = (s.updateConfig p,
      .answered (Response.json 200 (s.dashboard.config.apply p).toJson).shared) := by
  have hroute : route s r = (s.updateConfig p,
      .answered (Response.json 200 (s.dashboard.config.apply p).toJson)) := by
    rw [route, hmethod, hpath]
    simp only [show?, act, hread]
    rfl
  rw [handle, hroute]

/-- A request for other settings that is answered well is read as a patch. -/
theorem eq_of_handle_config (hmethod : r.method = "POST")
    (hpath : Route.ofPath r.path = some .config) {response : Response}
    (h : handle s r = (t, .answered response)) (hstatus : response.status = 200) :
    ∃ p, t.dashboard.config = s.dashboard.config.apply p ∧
      response = (Response.json 200 t.dashboard.config.toJson).shared := by
  cases hread : readBody ConfigPatch.record r with
  | ok p =>
    rw [handle_config hmethod hpath hread] at h
    cases h
    exact ⟨p, rfl, rfl⟩
  | error refused =>
    have hroute : route s r = (s, .answered refused) := by
      rw [route, hmethod, hpath]
      simp only [show?, act, hread]
      rfl
    rw [handle, hroute] at h
    cases h
    have hrefused : refused.status ≠ 200 := status_of_readBody hread
    exact absurd hstatus hrefused

/-- Written settings are read as the settings and as a patch that turns any settings into them.  So
to post the answer to a patch again, at any time and whatever was set in between, restores the
settings that were in force after the patch, and is answered with the same text again. -/
theorem restored_by_own_answer :
    (∀ (c : RefreshConfig) (layout : Option Nat), c.InRange → ReadsBack c.timeoutS →
      let text := (String.ofList (c.toJson.chars layout)).toUTF8.toList
      (∃ p, ConfigPatch.ofText text = .ok p ∧ ∀ b : RefreshConfig, b.apply p = c) ∧
        readAll RefreshConfig.record.decode text = .ok c) ∧
      ∀ (s s' : Session) (r : Request) (response : Response), r.method = "POST" →
        Route.ofPath r.path = some .config → handle s r = (s', .answered response) →
        response.status = 200 → ReadsBack s'.dashboard.config.timeoutS →
        ∀ (t : Session) (again : Request), again.method = "POST" →
          Route.ofPath again.path = some .config → again.hasJson = true →
          again.body = response.body.toUTF8.toList →
          ∃ t', handle t again = (t', .answered response) ∧
            t'.dashboard.config = s'.dashboard.config := by
  constructor
  · intro c layout h hback text
    have htext : text = utf8 (c.toJson.chars layout) := by
      rw [← String.toList_ofList (l := c.toJson.chars layout), ← toList_toUTF8]
    rw [htext]
    have hpatch := readAll_of_spells (RefreshConfig.spells_patch h hback layout) isGap_nil
      isGap_nil
    have hrecord := readAll_of_spells (RefreshConfig.spells_record h hback layout) isGap_nil
      isGap_nil
    rw [List.nil_append, List.append_nil] at hpatch hrecord
    exact ⟨⟨_, hpatch, RefreshConfig.apply_toPatch h⟩, hrecord⟩
  · intro s s' r response hmethod hpath hhandle hstatus hback t again hmethod' hpath' hjson hbody
    obtain ⟨p, hconfig, hresponse⟩ := eq_of_handle_config hmethod hpath hhandle hstatus
    have h : s'.dashboard.config.InRange := by
      rw [hconfig]
      exact RefreshConfig.inRange_clamped _
    have hbytes : again.body = utf8 (s'.dashboard.config.toJson.chars none) := by
      rw [hbody, hresponse, toList_toUTF8]
      exact congrArg utf8 String.toList_ofList
    have hread : readBody ConfigPatch.record again = .ok s'.dashboard.config.toPatch := by
      have hhead : readHead ConfigPatch.record.decode
          (utf8 (s'.dashboard.config.toJson.chars none) ++ []) = _ :=
        readHead_of_spells (RefreshConfig.spells_patch h hback none) trivial
      rw [List.append_nil, ← hbytes] at hhead
      rw [readBody, if_neg (by simp [hjson]), hhead]
    refine ⟨t.updateConfig s'.dashboard.config.toPatch, ?_, RefreshConfig.apply_toPatch h _⟩
    rw [handle_config hmethod' hpath' hread, RefreshConfig.apply_toPatch h, hresponse]

/-- A quarter of a second and other settings, restored after two other patches. -/
theorem restored_after_other_patches :
    let post (body : String) : Request :=
      ⟨"POST", "/api/config", some "application/json", body.toUTF8.toList⟩
    let s : Session := .new {} 0
    let first := post "\x7b\"interval_ms\": 1250, \"timeout_s\": 0.25, \"show_links\": true\x7d"
    let s' := (handle s first).1
    let response := (Response.json 200 s'.dashboard.config.toJson).shared
    let t := Turn.run s' [.configure { timeoutS := some .nan, columns := some 9 },
      .configure { intervalMs := some 0, running := some false }]
    handle s first = (s', .answered response) ∧
      t.dashboard.config ≠ s'.dashboard.config ∧
      ∃ t', handle t (post response.body) = (t', .answered response) ∧
        t'.dashboard.config = s'.dashboard.config := by
  intro post s first s' response t
  have hread : (readBody ConfigPatch.record first).toOption = some
      { intervalMs := some 1250, timeoutS := some (.number false 0x3fd0000000000000),
        showLinks := some true } := by
    decide +kernel
  have hfirst : handle s first = (s', .answered response) := by
    have hhandle := handle_config (s := s) (r := first) rfl (by decide +kernel)
      (Turn.eq_ok_of_toOption hread)
    have hs' : s' = s.updateConfig _ := congrArg Prod.fst hhandle
    rw [hhandle]
    simp only [response, hs']
    rfl
  have hback : (Decoder.binary64 s'.dashboard.config.timeoutS.shortest.toUTF8.toList).toOption =
      some (s'.dashboard.config.timeoutS, []) := by
    decide +kernel
  refine ⟨hfirst, by decide +kernel, ?_⟩
  exact restored_by_own_answer.2 s s' first response rfl (by decide +kernel) hfirst rfl
    (Turn.eq_ok_of_toOption hback) t (post response.body) rfl (by decide +kernel)
    (by decide +kernel) rfl

end Http

end VideoWall
