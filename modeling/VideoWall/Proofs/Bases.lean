import Mathlib.Data.List.DropRight
import Mathlib.Tactic.TFAE
import VideoWall.Session

/-!
# Base addresses

A text names a base address: the white space around it is cut off, and then the slashes that end it.
Cutting off slashes may lay white space bare that stood before them.  It is kept, and such a base is
another one when it is named again; every other base is in its normal form and names itself.

    slashes that end a base make no difference                       (normalizeBase_closed)
    a base names itself if no white space ends it                        (baseOf_baseOf_iff)
    a base is in normal form if no white space stands before its slashes
                                                                   (base_of_accepted_text)
-/

namespace VideoWall

/-! ## What is left of a text -/

namespace Text

variable {p : Char → Bool} {cs : List Char} {c : Char}

theorem trimEnd_append_of_all {ds : List Char} (h : ∀ c ∈ ds, p c = true) (cs : List Char) :
    trimEnd p (cs ++ ds) = trimEnd p cs := by
  rw [trimEnd, trimEnd, List.reverse_append,
    List.dropWhile_append_of_pos fun c hc => h c (List.mem_reverse.1 hc)]

theorem eq_false_of_mem_head?_dropWhile (h : c ∈ (cs.dropWhile p).head?) : p c = false := by
  have hhead := List.head?_dropWhile_not p cs
  rwa [h] at hhead

theorem eq_false_of_mem_getLast?_trimEnd (h : c ∈ (trimEnd p cs).getLast?) : p c = false := by
  rw [trimEnd, List.getLast?_reverse] at h
  exact eq_false_of_mem_head?_dropWhile h

theorem trimEnd_prefix : trimEnd p cs <+: cs := List.rdropWhile_prefix p cs

theorem mem_head?_of_trimEnd (h : c ∈ (trimEnd p cs).head?) : c ∈ cs.head? := by
  obtain ⟨ds, hds⟩ : trimEnd p cs <+: cs := trimEnd_prefix
  rw [← hds, List.head?_append, h]
  rfl

theorem trimEnd_eq_self_iff : trimEnd p cs = cs ↔ ∀ c ∈ cs.getLast?, p c = false := by
  constructor
  · intro h c hc
    rw [← h] at hc
    exact eq_false_of_mem_getLast?_trimEnd hc
  · intro h
    refine List.rdropWhile_eq_self_iff.2 fun hne => ?_
    rw [h _ (List.getLast?_eq_some_getLast hne)]
    exact Bool.false_ne_true

/-- A text that no white space begins is trimmed at its end alone. -/
theorem toList_trim_of_front {s : String} (h : ∀ c ∈ s.toList.head?, isWhite c = false) :
    (trim s).toList = trimEnd isWhite s.toList := by
  have hfront : s.toList.dropWhile isWhite = s.toList := by
    cases hs : s.toList with
    | nil => rfl
    | cons c cs =>
      refine List.dropWhile_cons_of_neg ?_
      rw [h c (by rw [hs]; rfl)]
      exact Bool.false_ne_true
  rw [trim, String.toList_ofList, hfront]

theorem front_trim {s : String} (h : c ∈ (trim s).toList.head?) : isWhite c = false := by
  rw [trim, String.toList_ofList] at h
  exact eq_false_of_mem_head?_dropWhile (mem_head?_of_trimEnd h)

theorem back_trim {s : String} (h : c ∈ (trim s).toList.getLast?) : isWhite c = false := by
  rw [trim, String.toList_ofList] at h
  exact eq_false_of_mem_getLast?_trimEnd h

end Text

/-! ## Slashes at the end -/

theorem normalizeBase_closed (base : String) (k : Nat) :
    normalizeBase (base ++ String.ofList (List.replicate k '/')) = normalizeBase base := by
  have hslashes : ∀ c ∈ List.replicate k '/', (c == '/') = true := by
    intro c hc
    rw [List.eq_of_mem_replicate hc]
    rfl
  rw [normalizeBase, String.toList_append, String.toList_ofList,
    Text.trimEnd_append_of_all hslashes, ← normalizeBase]

namespace Dashboard

/-! ## The base that a text names -/

theorem toList_baseOf (text : String) :
    (baseOf text).toList = Text.trimEnd (· == '/') (Text.trim text).toList := by
  rw [baseOf, normalizeBase, String.toList_ofList]

theorem front_baseOf {text : String} {c : Char} (h : c ∈ (baseOf text).toList.head?) :
    Text.isWhite c = false := by
  rw [toList_baseOf] at h
  have htrim : c ∈ (Text.trim text).toList.head? := Text.mem_head?_of_trimEnd h
  exact Text.front_trim htrim

theorem back_baseOf {text : String} {c : Char} (h : c ∈ (baseOf text).toList.getLast?) :
    c ≠ '/' := by
  rw [toList_baseOf] at h
  have hslash := Text.eq_false_of_mem_getLast?_trimEnd h
  exact beq_eq_false_iff_ne.1 hslash

/-- All that is cut off a trimmed text is slashes. -/
theorem exists_slashes (text : String) :
    ∃ k, (Text.trim text).toList = (baseOf text).toList ++ List.replicate k '/' := by
  have hcut : (Text.trim text).toList =
      (baseOf text).toList ++ (Text.trim text).toList.rtakeWhile (· == '/') := by
    rw [toList_baseOf]
    exact List.rdropWhile_append_rtakeWhile.symm
  have hslashes : ∀ c ∈ (Text.trim text).toList.rtakeWhile (· == '/'), c = '/' := by
    intro c hc
    have hslash := List.mem_rtakeWhile_imp hc
    exact beq_iff_eq.1 hslash
  rw [List.eq_replicate_of_mem hslashes] at hcut
  exact ⟨_, hcut⟩

/-- A base names itself just if no white space ends it. -/
theorem baseOf_baseOf_iff (text : String) :
    baseOf (baseOf text) = baseOf text ↔
      ∀ c ∈ (baseOf text).toList.getLast?, Text.isWhite c = false := by
  have htrim : (Text.trim (baseOf text)).toList = Text.trimEnd Text.isWhite (baseOf text).toList :=
    Text.toList_trim_of_front fun _ hc => front_baseOf hc
  rw [← Text.trimEnd_eq_self_iff, ← htrim]
  constructor
  · intro h
    have hwhite : (Text.trim (baseOf text)).toList <+: (baseOf text).toList := by
      rw [htrim]
      exact Text.trimEnd_prefix
    have hslashes : (baseOf text).toList <+: (Text.trim (baseOf text)).toList := by
      conv_lhs => rw [← h, toList_baseOf]
      exact Text.trimEnd_prefix
    exact hwhite.eq_of_length_le hslashes.length_le
  · intro h
    rw [baseOf, String.toList_inj.1 h, baseOf, normalizeBase_idem]

/-- There is white space at the end of a base just if there is some before the slashes that end the
trimmed text. -/
theorem back_baseOf_white_iff (text : String) :
    (∀ c ∈ (baseOf text).toList.getLast?, Text.isWhite c = false) ↔
      ∀ front c k, (Text.trim text).toList = front ++ c :: List.replicate (k + 1) '/' →
        Text.isWhite c = false := by
  obtain ⟨n, hn⟩ := exists_slashes text
  constructor
  · intro h front c k hk
    by_cases hc : c = '/'
    · rw [hc]
      rfl
    · have hkept : Text.trimEnd (· == '/') (front ++ [c]) = front ++ [c] := by
        refine List.rdropWhile_concat_neg _ _ _ ?_
        rwa [beq_iff_eq]
      refine h c ?_
      rw [toList_baseOf, hk, List.append_cons, Text.trimEnd_append_of_all (by simp), hkept]
      exact List.getLast?_concat
  · intro h c hc
    obtain ⟨front, hfront⟩ := List.getLast?_eq_some_iff.1 hc
    rw [hfront, List.append_assoc, List.singleton_append] at hn
    cases n with
    | zero =>
      refine Text.back_trim (s := text) ?_
      rw [hn]
      exact List.getLast?_concat
    | succ k => exact h front c k hn

end Dashboard

namespace Session

/-- A text is refused if it names the empty base, and otherwise the base that it names is kept. -/
theorem setBaseUrl_baseOf (s : Session) (text : String) :
    (Dashboard.baseOf text = "" ∧ s.setBaseUrl text = .error .emptyBaseUrl) ∨
      Dashboard.baseOf text ≠ "" ∧ ∃ t call, s.setBaseUrl text = .ok (t, call) ∧
        t.dashboard.baseUrl = Dashboard.baseOf text := by
  by_cases hb : Dashboard.baseOf text = ""
  · left
    refine ⟨hb, ?_⟩
    rw [setBaseUrl, Dashboard.switch, if_pos hb]
  · right
    have hswitch : s.setBaseUrl text = .ok ((s.become { s.dashboard with
        baseUrl := Dashboard.baseOf text, catalog := .pending, selection := []
        layoutVersion := s.dashboard.layoutVersion + 1 } true).forget.discover false) := by
      rw [setBaseUrl, Dashboard.switch, if_neg hb]
    exact ⟨hb, _, _, hswitch, rfl⟩

/-- Of a text that is accepted what stands before the slashes at the end is kept.  It is not empty,
begins with no white space and ends with no slash.  It ends with no white space either, and so is in
its normal form, just if naming it again at any time leaves it as it is, and just if in the text no
white space stands before those slashes.  A text is refused if there are only slashes between the
white space around it. -/
theorem base_of_accepted_text (s : Session) (text : String) :
    match s.setBaseUrl text with
    | .ok (t, _) =>
      let base := t.dashboard.baseUrl
      (∃ k, (Text.trim text).toList = base.toList ++ List.replicate k '/') ∧
        base ≠ "" ∧ (∀ c ∈ base.toList.head?, Text.isWhite c = false) ∧
        (∀ c ∈ base.toList.getLast?, c ≠ '/') ∧
        [∀ c ∈ base.toList.getLast?, Text.isWhite c = false,
          ∀ u : Session, ∃ v call,
            u.setBaseUrl base = .ok (v, call) ∧ v.dashboard.baseUrl = base,
          ∀ front c k, (Text.trim text).toList = front ++ c :: List.replicate (k + 1) '/' →
            Text.isWhite c = false].TFAE
    | .error e => e = .emptyBaseUrl ∧ ∀ c ∈ (Text.trim text).toList, c = '/' := by
  have hcases := s.setBaseUrl_baseOf text
  generalize s.setBaseUrl text = result at hcases
  rcases hcases with ⟨hb, rfl⟩ | ⟨hb, t, call, rfl, hbase⟩
  · refine ⟨rfl, fun c hc => ?_⟩
    obtain ⟨k, hk⟩ := Dashboard.exists_slashes text
    rw [hk, hb] at hc
    exact List.eq_of_mem_replicate hc
  · dsimp only
    rw [hbase]
    refine ⟨Dashboard.exists_slashes text, hb, fun c hc => Dashboard.front_baseOf hc,
      fun c hc => Dashboard.back_baseOf hc, ?_⟩
    tfae_have 1 ↔ 3 := Dashboard.back_baseOf_white_iff text
    tfae_have 1 → 2 := by
      intro hback u
      have hsame := (Dashboard.baseOf_baseOf_iff text).2 hback
      have hcases := u.setBaseUrl_baseOf (Dashboard.baseOf text)
      rw [hsame] at hcases
      rcases hcases with ⟨hempty, -⟩ | ⟨-, hagain⟩
      · exact absurd hempty hb
      · exact hagain
    tfae_have 2 → 1 := by
      intro hagain
      obtain ⟨u, other, hu, hbu⟩ := hagain t
      have hcases := t.setBaseUrl_baseOf (Dashboard.baseOf text)
      rw [hu] at hcases
      rcases hcases with ⟨-, hrefused⟩ | ⟨-, v, last, hv, hbv⟩
      · cases hrefused
      · obtain ⟨rfl, -⟩ := Prod.mk.inj (Except.ok.inj hv)
        exact (Dashboard.baseOf_baseOf_iff text).1 (hbv.symm.trans hbu)
    tfae_finish

/-- White space before the slash at the end is kept, and cut off when the base is named again. -/
theorem base_kept_with_white_space :
    let kept (text : String) : Option String :=
      ((Session.new {} 0).setBaseUrl text).toOption.map fun r => r.1.dashboard.baseUrl
    kept "http://b /" = some "http://b " ∧ Text.isWhite ' ' = true ∧
      kept "http://b " = some "http://b" ∧ kept "/ /" = some "/ " ∧ kept "/ " = none := by
  decide +kernel

end Session

end VideoWall
