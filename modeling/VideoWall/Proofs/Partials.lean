import VideoWall.Proofs.Decimals
import VideoWall.Proofs.Restored
import VideoWall.Proofs.Skips

/-!
# Settings files that say little

A settings file names the settings that are not to have their defaults, in any order, and may hold
whatever else somebody keeps there.  What it has under a name that no setting has is passed over, be
it a member of the file or of the refresh settings inside it, and so the settings are those that the
file gives and the defaults for all others.

    a member sets its field, or nothing if it has none                        (member_of_reads)
    an object is read as all that its members set                                (spells_object)
    in whatever order they come, what is given is set                             (foldl_change)
    a settings file gives what it says and nothing else                 (config_of_partial_file)
-/

namespace VideoWall

namespace Json

/-! ## Values -/

/-- The digits of a natural number up to `max`. -/
def IsNatural (max : Nat) (text : Bytes) (n : Nat) : Prop :=
  n ≤ max ∧ text = utf8 (Nat.toDigits 10 n)

def IsBoolean (text : Bytes) (b : Bool) : Prop := text = utf8 (if b then "true" else "false").toList

/-- A string in quotes that denotes a text. -/
def IsText (text : Bytes) (s : String) : Prop :=
  ∃ quoted, text = 0x22 :: (quoted ++ [0x22]) ∧ Spelled quoted s.toList

theorem spells_of_isNatural {wanted : Wanted} {max n : Nat} (hmax : max ≤ maxSignificand)
    {text : Bytes} (h : IsNatural max text n) : Spells (Decoder.natural wanted max) text n := by
  obtain ⟨hn, rfl⟩ := h
  exact spells_toDigits hmax hn

theorem spells_u16 {text : Bytes} {n : Nat} (h : IsNatural (twoTo 16 - 1) text n) :
    Spells Decoder.u16 text n := spells_of_isNatural (by decide) h

theorem spells_u64 {text : Bytes} {n : Nat} (h : IsNatural (twoTo 64 - 1) text n) :
    Spells Decoder.u64 text n := spells_of_isNatural (Nat.le_refl _) h

theorem spells_size {text : Bytes} {n : Nat} (h : IsNatural (twoTo 64 - 1) text n) :
    Spells Decoder.size text n := spells_of_isNatural (Nat.le_refl _) h

theorem spells_of_isBoolean {text : Bytes} {b : Bool} (h : IsBoolean text b) :
    Spells Decoder.boolean text b := by
  obtain rfl := h
  exact spells_boolean b none

theorem spells_of_isText {text : Bytes} {s : String} (h : IsText text s) :
    Spells Decoder.text text s := by
  obtain ⟨quoted, rfl, hquoted⟩ := h
  refine ⟨⟨by decide, by decide⟩, fun rest _ => ?_⟩
  rw [List.cons_append, List.append_assoc, List.singleton_append]
  exact string_of_spelled hquoted rest

theorem spells_of_isFloat {text : Bytes} {x : Binary64} (h : IsFloat text x) :
    Spells Decoder.binary64 text x := spells_of_binary64 h.2

/-! ## Objects -/

/-- Whether a text is an object with these members, each with the text of its value. -/
def IsObject (text : Bytes) (members : List (String × Bytes)) : Prop :=
  ∃ bs, text = 0x7b :: (bs ++ [0x7d]) ∧
    Parts (Member fun quoted key => Spelled quoted key.toList) bs members

/-- Whether the members give a value for a key once, or none at all. -/
inductive Gives {α : Type} (value : Bytes → α → Prop) (members : List (String × Bytes))
    (key : String) : Option α → Prop
  | nothing (h : ∀ m ∈ members, m.1 ≠ key) : Gives value members key none
  | once {text : Bytes} {a : α} (h : members.filter (·.1 == key) = [(key, text)])
      (htext : value text a) : Gives value members key (some a)

namespace Gives

variable {α : Type} {value : Bytes → α → Prop} {members : List (String × Bytes)} {key : String}
  {a? : Option α}

theorem eq_none (h : Gives value members key a?) (hkey : ∀ m ∈ members, m.1 ≠ key) : a? = none := by
  cases h with
  | nothing => rfl
  | @once text a h =>
    have hmem : (key, text) ∈ members.filter (·.1 == key) := by
      rw [h]
      exact List.mem_singleton_self _
    exact absurd rfl (hkey _ (List.mem_filter.1 hmem).1)

theorem exists_of_mem (h : Gives value members key a?) {m : String × Bytes} (hm : m ∈ members)
    (hkey : m.1 = key) : ∃ a, a? = some a ∧ value m.2 a := by
  cases h with
  | nothing h => exact absurd hkey (h m hm)
  | @once text a h htext =>
    have hmem : m ∈ members.filter (·.1 == key) := List.mem_filter.2 ⟨hm, beq_iff_eq.2 hkey⟩
    rw [h] at hmem
    obtain rfl := List.mem_singleton.1 hmem
    exact ⟨a, rfl, htext⟩

theorem count_le (h : Gives value members key a?) : (members.map Prod.fst).count key ≤ 1 := by
  have hcount : (members.map Prod.fst).count key = (members.filter (·.1 == key)).length := by
    rw [List.count, List.countP_map, List.countP_eq_length_filter]
    rfl
  rw [hcount]
  cases h with
  | nothing h =>
    have hnone : members.filter (·.1 == key) = [] := by
      rw [List.filter_eq_nil_iff]
      exact fun m hm => by simpa using h m hm
    rw [hnone]
    exact Nat.zero_le 1
  | once h =>
    rw [h]
    exact Nat.le_refl 1

end Gives

/-! ## Records -/

section

variable {σ : Type} {r : Record σ}

/-- What a record is changed by on a member: a field of it, or anything under another name. -/
inductive Record.Reads (r : Record σ) : String × Bytes → (σ → σ) → Prop
  | field {key : String} {text : Bytes} {set : σ → σ} (h : r.Takes key text set) :
      r.Reads (key, text) set
  | other {key : String} {text : Bytes} (hkey : key ∉ r.fields.map (·.name)) (h : IsJson text) :
      r.Reads (key, text) id

/-- A member of an object is read if it is of no field or of one that has not been read yet. -/
theorem Record.member_of_reads {m : String × Bytes} {set : σ → σ} (h : r.Reads m set)
    {seen : List String} (hseen : ∀ f ∈ r.fields, f.name = m.1 → m.1 ∉ seen) (s : σ) :
    ∃ seen', seen'.Sublist (m.1 :: seen) ∧
      ∀ {gap gap' rest : Bytes}, IsGap gap → IsGap gap' → EndsValue rest →
        r.member (s, seen) m.1 (gap ++ 0x3a :: (gap' ++ (m.2 ++ rest))) =
          .ok ((set s, seen'), rest) := by
  cases h with
  | @field key text set h =>
    refine ⟨key :: seen, .refl _, fun hgap hgap' hrest => ?_⟩
    have hnew : key ∉ seen := by
      obtain ⟨f, hf, -⟩ := h
      exact hseen f (List.mem_of_find?_eq_some hf) (by simpa using List.find?_some hf)
    exact Record.member_of_takes h hnew hgap hgap' s hrest
  | @other key text hkey h =>
    refine ⟨seen, List.sublist_cons_self key seen, fun {gap gap' rest} hgap hgap' hrest => ?_⟩
    have hnone : r.fields.find? (·.name == key) = none := by
      refine List.find?_eq_none.2 fun f hf hname => hkey ?_
      rw [← beq_iff_eq.1 hname]
      exact List.mem_map_of_mem hf
    have hskips := skip_of_isJson h
    rw [Record.member, hnone]
    simp only [readColon_gap hgap, hskips.start.skipBlanks_append hgap', hskips.skip rest hrest]
    rfl

/-- Members are read one after the other, if each field is given once at most. -/
theorem members_of_parts {bs : Bytes} {members : List (String × Bytes)}
    (h : MoreParts (Member fun quoted key => Spelled quoted key.toList) bs members)
    {change : String → σ → σ} (hreads : ∀ m ∈ members, r.Reads m (change m.1))
    (seen : List String) (hone : ∀ f ∈ r.fields, (seen ++ members.map Prod.fst).count f.name ≤ 1)
    (s : σ) :
    ∃ seen', Members r.member (s, seen) bs (members.foldl (fun s m => change m.1 s) s, seen') := by
  induction h generalizing s seen with
  | nil hgap => exact ⟨seen, .nil hgap⟩
  | @cons gap gap' text more m ms hgap hgap' htext hmore ih =>
    have hunseen : ∀ f ∈ r.fields, f.name = m.1 → m.1 ∉ seen := by
      intro f hf hname hmem
      have hcount := hone f hf
      rw [hname, List.count_append, List.map_cons, List.count_cons_self] at hcount
      have hpos : 0 < seen.count m.1 := List.count_pos_iff.2 hmem
      omega
    obtain ⟨seen', hsub, hmember⟩ :=
      Record.member_of_reads (hreads m List.mem_cons_self) hunseen s
    have hone' : ∀ f ∈ r.fields, (seen' ++ ms.map Prod.fst).count f.name ≤ 1 := by
      intro f hf
      have hle := (hsub.append_right (ms.map Prod.fst)).count_le f.name
      have hperm : (m.1 :: seen ++ ms.map Prod.fst).count f.name =
          (seen ++ (m :: ms).map Prod.fst).count f.name := List.perm_middle.symm.count_eq f.name
      rw [hperm] at hle
      exact Nat.le_trans hle (hone f hf)
    obtain ⟨last, hrest⟩ := ih (fun m hm => hreads m (List.mem_cons_of_mem _ hm)) seen' hone'
      (change m.1 s)
    refine ⟨last, ?_⟩
    cases htext with
    | @mk quoted before after text key hname hbefore hafter =>
      have hbytes : gap ++ 0x2c :: (gap' ++
            (0x22 :: (quoted ++ 0x22 :: (before ++ 0x3a :: (after ++ text))) ++ more)) =
          gap ++ 0x2c :: (gap' ++ 0x22 :: ((quoted ++ [0x22]) ++
            ((before ++ 0x3a :: (after ++ text)) ++ more))) := by
        simp only [List.append_assoc, List.cons_append, List.nil_append]
      have hread : ∀ rest, string ((quoted ++ [0x22]) ++ rest) = .ok (key, rest) := by
        intro rest
        rw [List.append_assoc, List.singleton_append]
        exact string_of_spelled hname rest
      rw [hbytes]
      refine .cons hgap hgap' hread (fun rest hends => ?_) hrest
      rw [List.append_assoc, List.cons_append, List.append_assoc]
      exact hmember hbefore hafter hends

/-- An object is read as all that its members change, if each field is given once at most. -/
theorem spells_object {text : Bytes} {members : List (String × Bytes)}
    (h : IsObject text members) {change : String → σ → σ}
    (hreads : ∀ m ∈ members, r.Reads m (change m.1))
    (hone : ∀ f ∈ r.fields, (members.map Prod.fst).count f.name ≤ 1)
    (hoptional : ∀ f ∈ r.fields, f.required = false) :
    Spells r.decode text (members.foldl (fun s m => change m.1 s) r.blank) := by
  obtain ⟨bs, rfl, hbs⟩ := h
  refine ⟨⟨by decide, by decide⟩, fun rest _ => ?_⟩
  obtain ⟨seen, hmembers⟩ : ∃ seen, objectMembers r.member (r.blank, []) (bs ++ 0x7d :: rest) =
      .ok ((members.foldl (fun s m => change m.1 s) r.blank, seen), rest) := by
    cases hbs with
    | nil hgap => exact ⟨[], objectMembers_nil hgap _ rest⟩
    | cons hgap htext hmore =>
      obtain ⟨seen, hmembers⟩ := members_of_parts (.cons isGap_nil hgap htext hmore) hreads
        [] hone r.blank
      exact ⟨seen, objectMembers_of_members hmembers rest⟩
  have hcomplete : ∀ f ∈ r.fields, f.required = true → f.name ∈ seen := by
    intro f hf hrequired
    rw [hoptional f hf] at hrequired
    cases hrequired
  rw [List.cons_append, List.append_assoc, List.singleton_append, Record.decode_cons, hmembers]
  exact Record.complete_of_mem hcomplete _ rest

end

/-! ## What is set -/

section

variable {σ β : Type} {change : String → σ → σ} {get : σ → β} {key : String} {b? : Option β}

theorem get_foldl (hown : ∀ s, get (change key s) = b?.getD (get s))
    (hother : ∀ k ≠ key, ∀ s, get (change k s) = get s) (members : List (String × Bytes)) (s : σ) :
    get (members.foldl (fun s m => change m.1 s) s) =
      if key ∈ members.map Prod.fst then b?.getD (get s) else get s := by
  induction members generalizing s with
  | nil => rfl
  | cons m ms ih =>
    rw [List.foldl_cons, ih, List.map_cons]
    by_cases hm : m.1 = key
    · rw [hm, hown, if_pos List.mem_cons_self]
      cases b? <;> simp
    · simp only [hother m.1 hm, List.mem_cons, Ne.symm hm, false_or]

/-- What is given for a key is set once its member has been read, and no other member sets it. -/
theorem foldl_change (hown : ∀ s, get (change key s) = b?.getD (get s))
    (hother : ∀ k ≠ key, ∀ s, get (change k s) = get s) {members : List (String × Bytes)}
    (hnone : (∀ m ∈ members, m.1 ≠ key) → b? = none) (s : σ) :
    get (members.foldl (fun s m => change m.1 s) s) = b?.getD (get s) := by
  rw [get_foldl hown hother]
  split
  · rfl
  · next hkey =>
    have habsent : b? = none := hnone fun m hm hsame => hkey (hsame ▸ List.mem_map_of_mem hm)
    rw [habsent]
    rfl

end

/-- A member of a field is read, and changes a record by what is given. -/
theorem Gives.reads {σ α β : Type} {r : Record σ} {value : Bytes → α → Prop} {item : Decoder β}
    {f : α → β} {set : β → σ → σ} {change : σ → σ} {members : List (String × Bytes)}
    {m : String × Bytes} {a? : Option α} (h : Gives value members m.1 a?)
    (hm : m ∈ members) (hfield : r.fields.find? (·.name == m.1) = some (field m.1 item set))
    (hvalue : ∀ {text a}, value text a → Spells item text (f a))
    (hchange : ∀ a, a? = some a → ∀ s, set (f a) s = change s) : r.Reads m change := by
  obtain ⟨a, ha, htext⟩ := h.exists_of_mem hm rfl
  exact .field (takes_field hfield (hvalue htext) (funext (hchange a ha)))

end Json

open Json

/-! ## Settings -/

attribute [ext] RefreshConfig AppConfig

namespace ConfigPatch

/-- What a patch does to the setting of a name. -/
def change (p : ConfigPatch) (key : String) (c : RefreshConfig) : RefreshConfig :=
  if key = "interval_ms" then { c with intervalMs := p.intervalMs.getD c.intervalMs }
  else if key = "timeout_s" then { c with timeoutS := p.timeoutS.getD c.timeoutS }
  else if key = "columns" then { c with columns := p.columns.getD c.columns }
  else if key = "show_meta" then { c with showMeta := p.showMeta.getD c.showMeta }
  else if key = "show_links" then { c with showLinks := p.showLinks.getD c.showLinks }
  else if key = "running" then { c with running := p.running.getD c.running }
  else c

/-- Whether the members of an object give these settings, each once, and no others, but anything
under names that no setting has. -/
structure GivenBy (p : ConfigPatch) (members : List (String × Bytes)) : Prop where
  intervalMs : Gives (IsNatural (twoTo 64 - 1)) members "interval_ms" p.intervalMs
  timeoutS : Gives IsFloat members "timeout_s" p.timeoutS
  columns : Gives (IsNatural (twoTo 64 - 1)) members "columns" p.columns
  showMeta : Gives IsBoolean members "show_meta" p.showMeta
  showLinks : Gives IsBoolean members "show_links" p.showLinks
  running : Gives IsBoolean members "running" p.running
  others : ∀ m ∈ members, m.1 ∉ RefreshConfig.keys → IsJson m.2

variable {p : ConfigPatch} {members : List (String × Bytes)}

theorem GivenBy.reads (h : p.GivenBy members) :
    ∀ m ∈ members, RefreshConfig.record.Reads m (p.change m.1) := by
  rintro ⟨key, text⟩ hm
  by_cases hkey : key ∈ RefreshConfig.keys
  · simp only [RefreshConfig.keys, List.mem_cons, List.not_mem_nil, or_false] at hkey
    rcases hkey with rfl | rfl | rfl | rfl | rfl | rfl
    · exact Gives.reads h.intervalMs hm rfl spells_u64 fun a ha c => by simp [change, ha]
    · exact Gives.reads h.timeoutS hm rfl spells_of_isFloat fun a ha c => by simp [change, ha]
    · exact Gives.reads h.columns hm rfl spells_size fun a ha c => by simp [change, ha]
    · exact Gives.reads h.showMeta hm rfl spells_of_isBoolean fun a ha c => by simp [change, ha]
    · exact Gives.reads h.showLinks hm rfl spells_of_isBoolean fun a ha c => by simp [change, ha]
    · exact Gives.reads h.running hm rfl spells_of_isBoolean fun a ha c => by simp [change, ha]
  · have hchange : p.change key = id := by
      funext c
      simp only [RefreshConfig.keys, List.mem_cons, List.not_mem_nil, or_false, not_or] at hkey
      simp [change, hkey]
    rw [hchange]
    exact .other hkey (h.others _ hm hkey)

theorem GivenBy.foldl_change_eq (h : p.GivenBy members) :
    members.foldl (fun c m => p.change m.1 c) ({} : RefreshConfig) =
      ({} : RefreshConfig).override p := by
  ext1
  · exact foldl_change (fun _ => rfl) (fun k hk c => by grind [change]) h.intervalMs.eq_none _
  · exact foldl_change (fun _ => rfl) (fun k hk c => by grind [change]) h.timeoutS.eq_none _
  · exact foldl_change (fun _ => rfl) (fun k hk c => by grind [change]) h.columns.eq_none _
  · exact foldl_change (fun _ => rfl) (fun k hk c => by grind [change]) h.showMeta.eq_none _
  · exact foldl_change (fun _ => rfl) (fun k hk c => by grind [change]) h.showLinks.eq_none _
  · exact foldl_change (fun _ => rfl) (fun k hk c => by grind [change]) h.running.eq_none _

/-- An object is read as the settings it gives, and the defaults for all others. -/
theorem GivenBy.spells (h : p.GivenBy members) {text : Bytes} (htext : IsObject text members) :
    Spells RefreshConfig.record.decode text (({} : RefreshConfig).override p) := by
  have hone : ∀ f ∈ RefreshConfig.record.fields, (members.map Prod.fst).count f.name ≤ 1 := by
    simp only [RefreshConfig.record, field, List.forall_mem_cons, List.not_mem_nil, false_implies,
      implies_true, and_true]
    exact ⟨h.intervalMs.count_le, h.timeoutS.count_le, h.columns.count_le, h.showMeta.count_le,
      h.showLinks.count_le, h.running.count_le⟩
  have hoptional : ∀ f ∈ RefreshConfig.record.fields, f.required = false := by
    simp [RefreshConfig.record, field]
  rw [← h.foldl_change_eq]
  exact spells_object htext h.reads hone hoptional

end ConfigPatch

/-! ## Settings files -/

/-- What a settings file gives. -/
structure AppPatch where
  webPort : Option Nat := none
  baseUrl : Option String := none
  defaultSelection : Option Nat := none
  refresh : Option ConfigPatch := none

namespace AppPatch

/-- The names under which it is written. -/
def keys : List String := ["web_port", "base_url", "default_selection", "refresh"]

/-- What is given under a name is put in its place. -/
def change (p : AppPatch) (key : String) (c : AppConfig) : AppConfig :=
  if key = "web_port" then { c with webPort := p.webPort.getD c.webPort }
  else if key = "base_url" then { c with baseUrl := p.baseUrl.getD c.baseUrl }
  else if key = "default_selection" then
    { c with defaultSelection := p.defaultSelection.getD c.defaultSelection }
  else if key = "refresh" then
    { c with refresh := (p.refresh.map ({} : RefreshConfig).override).getD c.refresh }
  else c

/-- Whether a text is an object that gives these settings. -/
def GivesRefresh (text : Bytes) (p : ConfigPatch) : Prop :=
  ∃ members, IsObject text members ∧ p.GivenBy members

/-- Whether the members of an object give this, each once, and no more, but anything under other
names. -/
structure GivenBy (p : AppPatch) (members : List (String × Bytes)) : Prop where
  webPort : Gives (IsNatural (twoTo 16 - 1)) members "web_port" p.webPort
  baseUrl : Gives IsText members "base_url" p.baseUrl
  defaultSelection :
    Gives (IsNatural (twoTo 64 - 1)) members "default_selection" p.defaultSelection
  refresh : Gives GivesRefresh members "refresh" p.refresh
  others : ∀ m ∈ members, m.1 ∉ keys → IsJson m.2

/-- Whether a text is an object, in any gaps, that gives this. -/
def WrittenIn (p : AppPatch) (text : Bytes) : Prop :=
  ∃ gap object gap' members, text = gap ++ (object ++ gap') ∧ IsGap gap ∧ IsGap gap' ∧
    IsObject object members ∧ p.GivenBy members

variable {p : AppPatch} {members : List (String × Bytes)}

theorem spells_refresh {text : Bytes} {p : ConfigPatch} (h : GivesRefresh text p) :
    Spells RefreshConfig.record.decode text (({} : RefreshConfig).override p) := by
  obtain ⟨members, htext, hgiven⟩ := h
  exact hgiven.spells htext

theorem GivenBy.reads (h : p.GivenBy members) :
    ∀ m ∈ members, AppConfig.record.Reads m (p.change m.1) := by
  rintro ⟨key, text⟩ hm
  by_cases hkey : key ∈ keys
  · simp only [keys, List.mem_cons, List.not_mem_nil, or_false] at hkey
    rcases hkey with rfl | rfl | rfl | rfl
    · exact Gives.reads h.webPort hm rfl spells_u16 fun a ha c => by simp [change, ha]
    · exact Gives.reads h.baseUrl hm rfl spells_of_isText fun a ha c => by simp [change, ha]
    · exact Gives.reads h.defaultSelection hm rfl spells_size fun a ha c => by simp [change, ha]
    · exact Gives.reads h.refresh hm rfl spells_refresh fun a ha c => by simp [change, ha]
  · have hchange : p.change key = id := by
      funext c
      simp only [keys, List.mem_cons, List.not_mem_nil, or_false, not_or] at hkey
      simp [change, hkey]
    rw [hchange]
    exact .other hkey (h.others _ hm hkey)

/-- What is read of a file that gives this, before the refresh settings are clamped. -/
def read (p : AppPatch) : AppConfig where
  webPort := p.webPort.getD 8090
  baseUrl := p.baseUrl.getD "http://localhost:8080"
  defaultSelection := p.defaultSelection.getD 2
  refresh := (p.refresh.map ({} : RefreshConfig).override).getD {}

theorem clamped_read (p : AppPatch) :
    p.read.refresh.clamped = ({} : RefreshConfig).apply (p.refresh.getD {}) := by
  unfold read
  cases p.refresh <;> rfl

theorem GivenBy.foldl_change_eq (h : p.GivenBy members) :
    members.foldl (fun c m => p.change m.1 c) ({} : AppConfig) = p.read := by
  have hnone : (∀ m ∈ members, m.1 ≠ "refresh") →
      p.refresh.map ({} : RefreshConfig).override = none := by
    intro hkeys
    rw [h.refresh.eq_none hkeys]
    rfl
  ext1
  · exact foldl_change (fun _ => rfl) (fun k hk c => by grind [change]) h.webPort.eq_none _
  · exact foldl_change (fun _ => rfl) (fun k hk c => by grind [change]) h.baseUrl.eq_none _
  · exact foldl_change (fun _ => rfl) (fun k hk c => by grind [change]) h.defaultSelection.eq_none _
  · exact foldl_change (fun _ => rfl) (fun k hk c => by grind [change]) hnone _

/-- An object is read as what it gives, and the defaults for all else. -/
theorem GivenBy.spells (h : p.GivenBy members) {text : Bytes} (htext : IsObject text members) :
    Spells AppConfig.record.decode text p.read := by
  have hone : ∀ f ∈ AppConfig.record.fields, (members.map Prod.fst).count f.name ≤ 1 := by
    simp only [AppConfig.record, field, List.forall_mem_cons, List.not_mem_nil, false_implies,
      implies_true, and_true]
    exact ⟨h.webPort.count_le, h.baseUrl.count_le, h.defaultSelection.count_le, h.refresh.count_le⟩
  have hoptional : ∀ f ∈ AppConfig.record.fields, f.required = false := by
    simp [AppConfig.record, field]
  rw [← h.foldl_change_eq]
  exact spells_object htext h.reads hone hoptional

end AppPatch

/-- A settings file that gives each setting once at most, in any order and between members of any
other names that hold any JSON, is read: what it gives is as it gives it, all else has its default,
and the refresh settings are then clamped.  So files that give the same are read as the same. -/
theorem AppConfig.config_of_partial_file (p : AppPatch) (text : Bytes) (h : p.WrittenIn text) :
    ofText text = .ok
        { webPort := p.webPort.getD 8090
          baseUrl := p.baseUrl.getD "http://localhost:8080"
          defaultSelection := p.defaultSelection.getD 2
          refresh := ({} : RefreshConfig).apply (p.refresh.getD {}) } ∧
      ∀ other, p.WrittenIn other → ofText other = ofText text := by
  have hread {text : Bytes} (h : p.WrittenIn text) : ofText text = .ok
      { webPort := p.webPort.getD 8090
        baseUrl := p.baseUrl.getD "http://localhost:8080"
        defaultSelection := p.defaultSelection.getD 2
        refresh := ({} : RefreshConfig).apply (p.refresh.getD {}) } := by
    obtain ⟨gap, object, gap', members, rfl, hgap, hgap', hobject, hgiven⟩ := h
    rw [ofText, readAll_of_spells (hgiven.spells hobject) hgap hgap', ← p.clamped_read]
    rfl
  exact ⟨hread h, fun other hother => (hread hother).trans (hread h).symm⟩

/-- A text without quotes, backslashes and control characters denotes itself. -/
theorem spelled_utf8 {cs : List Char}
    (h : cs.all (fun c => c ≠ '"' && c ≠ '\\' && 0x20 ≤ c.toNat) = true) :
    Spelled (utf8 cs) cs := by
  induction cs with
  | nil => exact .nil
  | cons c cs ih =>
    rw [List.all_cons, Bool.and_eq_true] at h
    obtain ⟨hc, hcs⟩ := h
    simp only [Bool.and_eq_true, decide_eq_true_eq] at hc
    exact .cons (.plain hc.1.1 hc.1.2 (Nat.not_lt.2 hc.2)) (ih hcs)

/-- The name of a setting where it is none, another name that is spelled with an escape, and
settings in another order than that of the record. -/
theorem config_of_shuffled_file :
    let text := ("\x7b\"columns\": [-1, \x7b\x7d], \"refresh\": \x7b\"timeout_s\": 0.25, " ++
      "\"columns\": 7\x7d, \"\\u0077eb_port\": 9000\x7d\n").toUTF8.toList
    let quarter : Binary64 := .number false 0x3fd0000000000000
    let p : AppPatch :=
      { webPort := some 9000, refresh := some { columns := some 7, timeoutS := some quarter } }
    p.WrittenIn text ∧
      AppConfig.ofText text =
        .ok { webPort := 9000, refresh := { columns := 4, timeoutS := quarter } } ∧
      ∀ other, p.WrittenIn other → AppConfig.ofText other = AppConfig.ofText text := by
  intro text quarter p
  let pair (name : String) (value : Bytes) : Bytes :=
    0x22 :: (utf8 name.toList ++ 0x22 :: ([] ++ 0x3a :: ([0x20] ++ value)))
  let number : Bytes := [0x2d] ++ ([0x31] ++ ([] ++ []))
  let list : Bytes :=
    0x5b :: (([] ++ (number ++ ([] ++ 0x2c :: ([0x20] ++ ([0x7b, 0x7d] ++ []))))) ++ [0x5d])
  let float : Bytes := [] ++ ([0x30] ++ ((0x2e :: [0x32, 0x35]) ++ []))
  let seven : Bytes := utf8 (Nat.toDigits 10 7)
  let refresh : Bytes := 0x7b :: (([] ++ (pair "timeout_s" float ++
    ([] ++ 0x2c :: ([0x20] ++ (pair "columns" seven ++ []))))) ++ [0x7d])
  let port : Bytes := utf8 (Nat.toDigits 10 9000)
  have hblank : IsGap [0x20] := by decide
  have hpair (name : String) (value : Bytes) (h : Spelled (utf8 name.toList) name.toList) :
      Member (fun quoted key => Spelled quoted key.toList) (pair name value) (name, value) :=
    .mk h isGap_nil hblank
  have hlist : IsJson list := by
    have hnumber : IsJson number :=
      .number (.mk (.inr rfl) (.digits (by decide) ⟨by decide, List.all_eq_true.1 rfl⟩) .none .none)
    have hempty : IsJson [0x7b, 0x7d] := .object (.nil isGap_nil) nofun nofun
    exact .list (.cons isGap_nil rfl (.cons isGap_nil hblank rfl (.nil isGap_nil)))
      (List.forall_mem_cons.2 ⟨hnumber, List.forall_mem_singleton.2 hempty⟩)
  have hfloat : IsFloat float quarter := by
    have hfraction : IsFraction [0x2e, 0x32, 0x35] := .some ⟨by decide, List.all_eq_true.1 rfl⟩
    have hshort : (decimalOf [0x30] [0x2e, 0x32, 0x35] []).IsShort :=
      ⟨by decide, by decide, by decide⟩
    have hquarter : quarter = .number false (decimalOf [0x30] [0x2e, 0x32, 0x35] []).nearest := by
      decide +kernel
    rw [hquarter]
    exact isFloat_of_isShort (.inl rfl) .zero hfraction .none hshort (by decide)
  have hsettings : ConfigPatch.GivenBy { columns := some 7, timeoutS := some quarter }
      [("timeout_s", float), ("columns", seven)] := by
    constructor
    · exact .nothing (by simp)
    · exact .once rfl hfloat
    · exact .once rfl ⟨by decide, rfl⟩
    · exact .nothing (by simp)
    · exact .nothing (by simp)
    · exact .nothing (by simp)
    · simp [RefreshConfig.keys]
  have hrefresh : IsObject refresh [("timeout_s", float), ("columns", seven)] :=
    ⟨_, rfl, .cons isGap_nil (hpair "timeout_s" float (spelled_utf8 rfl))
      (.cons isGap_nil hblank (hpair "columns" seven (spelled_utf8 rfl)) (.nil isGap_nil))⟩
  have hgiven : p.GivenBy [("columns", list), ("refresh", refresh), ("web_port", port)] := by
    constructor
    · exact .once rfl ⟨by decide, rfl⟩
    · exact .nothing (by simp)
    · exact .nothing (by simp)
    · exact .once rfl ⟨_, hrefresh, hsettings⟩
    · simpa [AppPatch.keys] using hlist
  have hport : Spelled ((0x5c :: 0x75 :: [0x30, 0x30, 0x37, 0x37]) ++ utf8 "eb_port".toList)
      "web_port".toList := by
    have hname : "web_port".toList = 'w' :: "eb_port".toList := by decide
    have hw : Quad [0x30, 0x30, 0x37, 0x37] 'w'.toNat :=
      .mk (i := 0) (j := 0) (k := 7) (l := 7) rfl rfl rfl rfl
    rw [hname]
    exact .cons (.unicode hw) (spelled_utf8 rfl)
  have hwritten : p.WrittenIn text := by
    refine ⟨[], _, [0x0a], _, ?_, isGap_nil, by decide, ⟨_, rfl,
      .cons isGap_nil (hpair "columns" list (spelled_utf8 rfl)) <|
      .cons isGap_nil hblank (hpair "refresh" refresh (spelled_utf8 rfl)) <|
      .cons isGap_nil hblank (.mk hport isGap_nil hblank) (.nil isGap_nil)⟩, hgiven⟩
    simp only [text]
    rw [toList_toUTF8]
    decide +kernel
  obtain ⟨hread, hsame⟩ := AppConfig.config_of_partial_file p text hwritten
  exact ⟨hwritten, hread.trans (congrArg Except.ok (by decide +kernel)), hsame⟩

end VideoWall
