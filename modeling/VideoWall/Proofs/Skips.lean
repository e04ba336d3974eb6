import VideoWall.Json.Skip
import VideoWall.Proofs.Grammar

/-!
# Values that are passed over

A value nobody asked for is passed over by a reader of its own, which keeps nothing.  It has to stop
where the value ends, or what follows would be read from the wrong place on.  It does so for every
text of the grammar: a string whose escapes denote nothing, a number of any size, and brackets
nested as deep as they may be.  The fuel is no limit, because each bracket takes a byte of the text.

    a string is passed over up to its closing quote                  (skipString_of_isString)
    a number is passed over up to what ends a value                  (skipNumber_of_isNumber)
    parts are passed over if each of them is         (skipItems_of_parts, skipMembers_of_parts)
    a value is passed over, whatever it is and whatever follows               (skip_of_isJson)
-/

namespace VideoWall.Json

/-- Whether `item` passes over the text, whatever follows it. -/
structure Skips (item : Bytes → Except Fault Bytes) (text : Bytes) : Prop where
  start : StartsValue text
  skip : ∀ rest, EndsValue rest → item (text ++ rest) = .ok rest

/-! ## Strings -/

theorem skipEscape_of_mem {b : UInt8} {c : Char} (h : (b, c) ∈ shortEscapes) (rest : Bytes) :
    skipEscape (b :: rest) = .ok rest := by
  obtain ⟨d, hd, -⟩ := shortEscape_of_mem h
  simp only [skipEscape, hd]

theorem skipEscape_of_quad {digits : Bytes} {n : Nat} (h : Quad digits n) (rest : Bytes) :
    skipEscape (0x75 :: (digits ++ rest)) = .ok rest := by
  have hread : skipEscape (0x75 :: (digits ++ rest)) = (hexQuad (digits ++ rest)).map (·.2) := rfl
  rw [hread, hexQuad_of_quad h]
  rfl

theorem skipString_of_isString {quoted : Bytes} (h : IsString quoted) {fuel : Nat}
    (hfuel : quoted.length < fuel) (rest : Bytes) :
    skipString fuel (quoted ++ 0x22 :: rest) = .ok rest := by
  induction h generalizing fuel with
  | nil =>
    obtain ⟨fuel, rfl⟩ := Nat.exists_eq_add_one_of_ne_zero (Nat.ne_zero_of_lt hfuel)
    rfl
  | plain hb _ ih =>
    obtain ⟨fuel, rfl⟩ := Nat.exists_eq_add_one_of_ne_zero (Nat.ne_zero_of_lt hfuel)
    rw [List.length_cons] at hfuel
    rw [List.cons_append, skipString, if_neg hb.1, if_neg hb.2.1, if_neg hb.2.2]
    exact ih (by omega)
  | @short b c text hb _ ih =>
    obtain ⟨fuel, rfl⟩ := Nat.exists_eq_add_one_of_ne_zero (Nat.ne_zero_of_lt hfuel)
    rw [List.length_cons, List.length_cons] at hfuel
    rw [List.cons_append, List.cons_append, skipString, if_neg (by decide), if_pos rfl,
      skipEscape_of_mem hb]
    exact ih (by omega)
  | @unicode digits text n hdigits _ ih =>
    obtain ⟨fuel, rfl⟩ := Nat.exists_eq_add_one_of_ne_zero (Nat.ne_zero_of_lt hfuel)
    simp only [List.length_cons, List.length_append] at hfuel
    rw [List.cons_append, List.cons_append, List.append_assoc, skipString, if_neg (by decide),
      if_pos rfl, skipEscape_of_quad hdigits]
    exact ih (by omega)

/-- There is fuel for every byte of a string. -/
theorem skipString_quoted {quoted : Bytes} (h : IsString quoted) (rest : Bytes) :
    skipString ((quoted ++ 0x22 :: rest).length + 1) (quoted ++ 0x22 :: rest) = .ok rest := by
  refine skipString_of_isString h ?_ rest
  rw [List.length_append]
  omega

/-! ## Numbers -/

theorem skipExponent_append_digit {sign : Bytes} (hsign : IsSign sign) {d : UInt8}
    (hd : isDigit d = true) (rest : Bytes) :
    skipExponent (sign ++ d :: rest) = .ok (afterDigits rest) := by
  cases hsign with
  | none =>
    rw [List.nil_append]
    unfold skipExponent
    split
    · next heq =>
      split at heq
      · next hplus =>
        cases hplus
        cases hd
      · next hminus =>
        cases hminus
        cases hd
      · cases heq
    · next heq =>
      split at heq
      · next hplus =>
        cases hplus
        cases hd
      · next hminus =>
        cases hminus
        cases hd
      · cases heq
        exact if_pos hd
  | plus => exact if_pos hd
  | minus => exact if_pos hd

theorem skipNumber_digit {d : UInt8} (hd : isDigit d = true) (bs : Bytes) :
    skipNumber (d :: bs) = skipUnsigned (d :: bs) := by
  unfold skipNumber
  split
  · next heq =>
    cases heq
    cases hd
  · rfl

section

variable {rest : Bytes} (hrest : EndsValue rest)

include hrest

theorem skipExponent_of_isDigits {sign ds : Bytes} (hsign : IsSign sign) (h : IsDigits ds) :
    skipExponent (sign ++ (ds ++ rest)) = .ok rest := by
  obtain ⟨d, ds, rfl, hd⟩ := h.exists_cons
  have hafter : afterDigits (ds ++ rest) = rest :=
    (digits_append (fun b hb => h.2 b (List.mem_cons_of_mem d hb)) hrest.endsDigits).2
  rw [List.cons_append, skipExponent_append_digit hsign hd, hafter]

theorem skipFraction_of_isDigits {ds exponent : Bytes} (h : IsDigits ds)
    (hexponent : IsExponent exponent) : skipFraction (ds ++ (exponent ++ rest)) = .ok rest := by
  obtain ⟨hdigits, hafter⟩ := digits_append h.2 (hexponent.endsDigits hrest.endsDigits)
  rw [skipFraction, hdigits, if_neg (by simp [h.1]), hafter]
  cases hexponent with
  | some he hsign h =>
    rw [List.cons_append, List.append_assoc]
    rcases he with rfl | rfl <;> exact skipExponent_of_isDigits hrest hsign h
  | none =>
    rw [List.nil_append]
    split
    · exact absurd rfl hrest.2.2.1
    · exact absurd rfl hrest.2.2.2
    · rfl

theorem skipUnsigned_of_isInteger {digits fraction exponent : Bytes} (hdigits : IsInteger digits)
    (hfraction : IsFraction fraction) (hexponent : IsExponent exponent) :
    skipUnsigned (digits ++ (fraction ++ (exponent ++ rest))) = .ok rest := by
  have hends : EndsDigits (fraction ++ (exponent ++ rest)) :=
    hfraction.endsDigits (hexponent.endsDigits hrest.endsDigits)
  have hall := hdigits.isDigits
  have hafter := (digits_append hall.2 hends).2
  obtain ⟨d, ds, rfl, hd⟩ := hall.exists_cons
  rw [List.cons_append] at hafter ⊢
  rw [skipUnsigned, if_neg (by simp [hd]), if_neg (hdigits.not_zero_cons hends), hafter]
  cases hfraction with
  | some h => exact skipFraction_of_isDigits hrest h hexponent
  | none =>
    cases hexponent with
    | some he hsign h =>
      rw [List.nil_append, List.cons_append, List.append_assoc]
      rcases he with rfl | rfl <;> exact skipExponent_of_isDigits hrest hsign h
    | none =>
      rw [List.nil_append, List.nil_append]
      split
      · exact absurd rfl hrest.2.1
      · exact absurd rfl hrest.2.2.1
      · exact absurd rfl hrest.2.2.2
      · rfl

theorem skipNumber_of_isNumber {text : Bytes} (h : IsNumber text) :
    skipNumber (text ++ rest) = .ok rest := by
  cases h with
  | @mk sign digits fraction exponent hsign hdigits hfraction hexponent =>
    have hskip := skipUnsigned_of_isInteger hrest hdigits hfraction hexponent
    simp only [List.append_assoc]
    rcases hsign with rfl | rfl
    · obtain ⟨d, ds, rfl, hd⟩ := hdigits.isDigits.exists_cons
      rw [List.nil_append, List.cons_append, skipNumber_digit hd]
      exact hskip
    · exact hskip

end

/-! ## Lists and objects -/

section

variable {α : Type} {part : Bytes → α → Prop} {item : Bytes → Except Fault Bytes}

theorem MoreParts.endsValue {bs rest : Bytes} {as : List α} (h : MoreParts part bs as)
    (hrest : EndsValue rest) : EndsValue (bs ++ rest) := by
  cases h with
  | nil hgap => exact endsValue_gap hgap hrest
  | cons hgap _ _ _ =>
    rw [List.append_assoc]
    exact endsValue_gap hgap (endsValue_comma _)

theorem endsValue_brace (rest : Bytes) : EndsValue (0x7d :: rest) :=
  ⟨by decide, by decide, by decide, by decide⟩

theorem skipMoreItems_of_parts {bs : Bytes} {texts : List Bytes} (h : MoreParts Eq bs texts)
    (hitem : ∀ t ∈ texts, Skips item t) {fuel : Nat} (hfuel : bs.length < fuel) (rest : Bytes) :
    skipMoreItems item fuel (bs ++ 0x5d :: rest) = .ok rest := by
  induction h generalizing fuel with
  | nil hgap =>
    obtain ⟨fuel, rfl⟩ := Nat.exists_eq_add_one_of_ne_zero (Nat.ne_zero_of_lt hfuel)
    rw [skipMoreItems, skipBlanks_gap hgap, skipBlanks_cons (by decide)]
    rfl
  | @cons gap gap' text more t ts hgap hgap' htext hmore ih =>
    obtain rfl := htext
    obtain ⟨fuel, rfl⟩ := Nat.exists_eq_add_one_of_ne_zero (Nat.ne_zero_of_lt hfuel)
    have hskips := hitem text List.mem_cons_self
    have hshort : more.length < fuel := by
      simp only [List.length_append, List.length_cons] at hfuel
      omega
    simp only [List.append_assoc, List.cons_append]
    rw [skipMoreItems, skipBlanks_gap hgap, skipBlanks_cons (by decide)]
    simp only [hskips.start.skipBlanks_append hgap',
      hskips.skip _ (hmore.endsValue (endsValue_closed rest))]
    exact ih (fun t ht => hitem t (List.mem_cons_of_mem _ ht)) hshort

theorem skipItems_of_parts {bs : Bytes} {texts : List Bytes} (h : Parts Eq bs texts)
    (hitem : ∀ t ∈ texts, Skips item t) (rest : Bytes) :
    skipItems item (bs ++ 0x5d :: rest) = .ok rest := by
  cases h with
  | nil hgap =>
    rw [skipItems, skipBlanks_gap hgap, skipBlanks_cons (by decide)]
    rfl
  | @cons gap text more t ts hgap htext hmore =>
    obtain rfl := htext
    have hskips := hitem text List.mem_cons_self
    have hskip := hskips.skip _ (hmore.endsValue (endsValue_closed rest))
    have hblanks := hskips.start.skipBlanks_append hgap (more ++ 0x5d :: rest)
    obtain ⟨b, tail, rfl, hblank, hb⟩ := hskips.start.exists_cons
    rw [List.cons_append] at hskip hblanks
    simp only [List.append_assoc, List.cons_append]
    rw [skipItems, hblanks]
    split
    · next heq => cases heq
    · next heq => exact absurd (List.cons.inj heq).1 hb
    · rw [hskip]
      refine skipMoreItems_of_parts hmore (fun t ht => hitem t (List.mem_cons_of_mem _ ht)) ?_ rest
      rw [List.length_append]
      omega

/-- A member is passed over if its value is. -/
theorem skipMember_of_member {text rest : Bytes} {m : Bytes × Bytes} (h : Member Eq text m)
    (hkey : IsString m.1) (hitem : Skips item m.2) {gap : Bytes} (hgap : IsGap gap)
    (hrest : EndsValue rest) : skipMember item (gap ++ (text ++ rest)) = .ok rest := by
  cases h with
  | @mk quoted gap gap' text key hname hbefore hafter =>
    obtain rfl := hname
    simp only [List.append_assoc, List.cons_append]
    rw [skipMember, skipBlanks_gap hgap, skipBlanks_cons (by decide)]
    simp only [skipString_quoted hkey, readColon_gap hbefore,
      hitem.start.skipBlanks_append hafter]
    exact hitem.skip rest hrest

theorem skipMoreMembers_of_parts {bs : Bytes} {members : List (Bytes × Bytes)}
    (h : MoreParts (Member Eq) bs members) (hkeys : ∀ m ∈ members, IsString m.1)
    (hitem : ∀ m ∈ members, Skips item m.2) {fuel : Nat} (hfuel : bs.length < fuel)
    (rest : Bytes) : skipMoreMembers item fuel (bs ++ 0x7d :: rest) = .ok rest := by
  induction h generalizing fuel with
  | nil hgap =>
    obtain ⟨fuel, rfl⟩ := Nat.exists_eq_add_one_of_ne_zero (Nat.ne_zero_of_lt hfuel)
    rw [skipMoreMembers, skipBlanks_gap hgap, skipBlanks_cons (by decide)]
    rfl
  | @cons gap gap' text more m ms hgap hgap' htext hmore ih =>
    obtain ⟨fuel, rfl⟩ := Nat.exists_eq_add_one_of_ne_zero (Nat.ne_zero_of_lt hfuel)
    have hskip := skipMember_of_member htext (hkeys m List.mem_cons_self)
      (hitem m List.mem_cons_self) hgap' (hmore.endsValue (endsValue_brace rest))
    have hshort : more.length < fuel := by
      simp only [List.length_append, List.length_cons] at hfuel
      omega
    simp only [List.append_assoc, List.cons_append]
    rw [skipMoreMembers, skipBlanks_gap hgap, skipBlanks_cons (by decide)]
    simp only [hskip]
    exact ih (fun m hm => hkeys m (List.mem_cons_of_mem _ hm))
      (fun m hm => hitem m (List.mem_cons_of_mem _ hm)) hshort

theorem skipMembers_of_parts {bs : Bytes} {members : List (Bytes × Bytes)}
    (h : Parts (Member Eq) bs members) (hkeys : ∀ m ∈ members, IsString m.1)
    (hitem : ∀ m ∈ members, Skips item m.2) (rest : Bytes) :
    skipMembers item (bs ++ 0x7d :: rest) = .ok rest := by
  cases h with
  | nil hgap =>
    rw [skipMembers, skipBlanks_gap hgap, skipBlanks_cons (by decide)]
    rfl
  | @cons gap text more m ms hgap htext hmore =>
    have hskip := skipMember_of_member htext (hkeys m List.mem_cons_self)
      (hitem m List.mem_cons_self) isGap_nil (hmore.endsValue (endsValue_brace rest))
    have hstart : ∃ tail, text = 0x22 :: tail := by
      cases htext
      exact ⟨_, rfl⟩
    obtain ⟨tail, rfl⟩ := hstart
    rw [List.nil_append, List.cons_append] at hskip
    simp only [List.append_assoc, List.cons_append]
    rw [skipMembers, skipBlanks_gap hgap, skipBlanks_cons (by decide)]
    split
    · next heq => cases heq
    · next heq => cases heq
    · rw [hskip]
      refine skipMoreMembers_of_parts hmore (fun m hm => hkeys m (List.mem_cons_of_mem _ hm))
        (fun m hm => hitem m (List.mem_cons_of_mem _ hm)) ?_ rest
      rw [List.length_append]
      omega

end

/-! ## Values -/

theorem MoreParts.exists_of_mem {α : Type} {part : Bytes → α → Prop} {bs : Bytes} {as : List α}
    (h : MoreParts part bs as) {a : α} (ha : a ∈ as) : ∃ t, part t a ∧ t.length ≤ bs.length := by
  induction h with
  | nil => cases ha
  | @cons gap gap' text more b bs hgap hgap' htext hmore ih =>
    simp only [List.length_append, List.length_cons]
    rcases List.mem_cons.1 ha with rfl | ha
    · exact ⟨text, htext, by omega⟩
    · obtain ⟨t, ht, hlength⟩ := ih ha
      exact ⟨t, ht, by omega⟩

/-- A part is not longer than all the parts together. -/
theorem Parts.exists_of_mem {α : Type} {part : Bytes → α → Prop} {bs : Bytes} {as : List α}
    (h : Parts part bs as) {a : α} (ha : a ∈ as) : ∃ t, part t a ∧ t.length ≤ bs.length := by
  cases h with
  | nil => cases ha
  | @cons gap text more b bs hgap htext hmore =>
    simp only [List.length_append]
    rcases List.mem_cons.1 ha with rfl | ha
    · exact ⟨text, htext, by omega⟩
    · obtain ⟨t, ht, hlength⟩ := hmore.exists_of_mem ha
      exact ⟨t, ht, by omega⟩

theorem skips_word {s : String} (h : s ∈ ["null", "true", "false"]) (depth : Nat) :
    Skips (skipValue (depth + 1)) (utf8 s.toList) := by
  have hword (b : UInt8) (w : Bytes) (hstart : isBlank b = false ∧ b ≠ 0x5d)
      (hread : ∀ rest, skipValue (depth + 1) (b :: rest) = word w rest) :
      Skips (skipValue (depth + 1)) (b :: w) :=
    ⟨hstart, fun rest _ => (hread (w ++ rest)).trans (word_append w rest)⟩
  simp only [List.mem_cons, List.not_mem_nil, or_false] at h
  rcases h with rfl | rfl | rfl
  · exact hword 0x6e (utf8 "ull".toList) ⟨by decide, by decide⟩ fun rest => by
      rw [← toList_toUTF8]
      rfl
  · exact hword 0x74 (utf8 "rue".toList) ⟨by decide, by decide⟩ fun rest => by
      rw [← toList_toUTF8]
      rfl
  · exact hword 0x66 (utf8 "alse".toList) ⟨by decide, by decide⟩ fun rest => by
      rw [← toList_toUTF8]
      rfl

theorem skipValue_number {b : UInt8} (hb : startsNumber b = true) (depth : Nat) (bs : Bytes) :
    skipValue (depth + 1) (b :: bs) = skipNumber (b :: bs) := by
  have hne (c : UInt8) (hc : startsNumber c = false) : b ≠ c := by
    rintro rfl
    rw [hb] at hc
    cases hc
  rw [skipValue, if_neg (hne _ rfl), if_neg (hne _ rfl), if_neg (hne _ rfl), if_neg (hne _ rfl),
    if_pos hb]

/-- A value is passed over with fuel for every byte of it. -/
theorem skips_of_isJson {text : Bytes} (h : IsJson text) {depth : Nat}
    (hdepth : text.length < depth) : Skips (skipValue depth) text := by
  induction h generalizing depth with
  | word h =>
    obtain ⟨depth, rfl⟩ := Nat.exists_eq_add_one_of_ne_zero (Nat.ne_zero_of_lt hdepth)
    exact skips_word h depth
  | @string quoted h =>
    obtain ⟨depth, rfl⟩ := Nat.exists_eq_add_one_of_ne_zero (Nat.ne_zero_of_lt hdepth)
    refine ⟨⟨by decide, by decide⟩, fun rest _ => ?_⟩
    rw [List.cons_append, List.append_assoc, List.singleton_append]
    exact skipString_quoted h rest
  | number h =>
    obtain ⟨depth, rfl⟩ := Nat.exists_eq_add_one_of_ne_zero (Nat.ne_zero_of_lt hdepth)
    obtain ⟨b, bs, rfl, hb⟩ := h.exists_cons
    refine ⟨startsValue_of_startsNumber hb bs, fun rest hrest => ?_⟩
    rw [List.cons_append, skipValue_number hb]
    exact skipNumber_of_isNumber hrest h
  | @list bs texts hbs _ ih =>
    obtain ⟨depth, rfl⟩ := Nat.exists_eq_add_one_of_ne_zero (Nat.ne_zero_of_lt hdepth)
    simp only [List.length_cons, List.length_append] at hdepth
    have hitem : ∀ t ∈ texts, Skips (skipValue depth) t := by
      intro t ht
      obtain ⟨text, rfl, hlength⟩ := hbs.exists_of_mem ht
      exact ih _ ht (by omega)
    refine ⟨⟨by decide, by decide⟩, fun rest _ => ?_⟩
    rw [List.cons_append, List.append_assoc, List.singleton_append]
    exact skipItems_of_parts hbs hitem rest
  | @object bs members hbs hkeys _ ih =>
    obtain ⟨depth, rfl⟩ := Nat.exists_eq_add_one_of_ne_zero (Nat.ne_zero_of_lt hdepth)
    simp only [List.length_cons, List.length_append] at hdepth
    have hitem : ∀ m ∈ members, Skips (skipValue depth) m.2 := by
      intro m hm
      obtain ⟨text, hmember, hlength⟩ := hbs.exists_of_mem hm
      have hshort : m.2.length ≤ text.length := by
        cases hmember
        simp only [List.length_cons, List.length_append]
        omega
      exact ih m hm (by omega)
    refine ⟨⟨by decide, by decide⟩, fun rest _ => ?_⟩
    rw [List.cons_append, List.append_assoc, List.singleton_append]
    exact skipMembers_of_parts hbs hkeys hitem rest

/-- A value is passed over, whatever it is and whatever follows it. -/
theorem skip_of_isJson {text : Bytes} (h : IsJson text) : Skips skip text := by
  refine ⟨(skips_of_isJson h (Nat.lt_succ_self _)).start, fun rest hrest => ?_⟩
  have hdepth : text.length < (text ++ rest).length + 1 := by
    rw [List.length_append]
    omega
  exact (skips_of_isJson h hdepth).skip rest hrest

end VideoWall.Json
