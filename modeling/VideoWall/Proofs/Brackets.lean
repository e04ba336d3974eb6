import VideoWall.Json.Decoder
import VideoWall.Proofs.Strings

/-!
# Lists and objects that are written and read

Between the parts of a list or an object there may be gaps of blanks, and what follows a value is a
gap, a comma or a closing bracket, so that a number ends where its text does.  A text spells a value
if it is read as the value wherever such a thing follows.  Texts that spell the items of a list,
with commas and gaps between them and in brackets, spell the list; and it is the same with the
members of an object.

    items in brackets spell a list                                            (listItems_of_items)
    members in braces are gathered one after the other                  (objectMembers_of_members)
    a text that spells a value and nothing else is read as the value          (readAll_of_spells)
-/

namespace VideoWall.Json

/-! ## Gaps and words -/

/-- Whether there are only blanks. -/
def IsGap (bs : Bytes) : Prop := ∀ b ∈ bs, isBlank b = true

instance (bs : Bytes) : Decidable (IsGap bs) :=
  List.decidableBAll (fun b => isBlank b = true) bs

theorem isGap_nil : IsGap [] := fun _ h => nomatch h

theorem skipBlanks_gap {gap : Bytes} (h : IsGap gap) (bs : Bytes) :
    skipBlanks (gap ++ bs) = skipBlanks bs :=
  List.dropWhile_append_of_pos h

/-- A comma is no part of a gap. -/
theorem eq_of_gap_comma {gap bs tail : Bytes} (hgap : IsGap gap)
    (h : 0x2c :: bs = gap ++ 0x2c :: tail) : gap = [] ∧ bs = tail := by
  cases gap with
  | nil => exact ⟨rfl, (List.cons.inj h).2⟩
  | cons b gap =>
    have hblank := hgap b List.mem_cons_self
    rw [← (List.cons.inj h).1] at hblank
    exact absurd hblank (by decide)

theorem not_isGap_comma (bs : Bytes) : ¬IsGap (0x2c :: bs) := fun h =>
  absurd (h 0x2c List.mem_cons_self) (by decide)

theorem skipBlanks_cons {b : UInt8} (h : isBlank b = false) (bs : Bytes) :
    skipBlanks (b :: bs) = b :: bs :=
  List.dropWhile_cons_of_neg (by rw [h]; exact Bool.false_ne_true)

theorem word_append (w rest : Bytes) : word w (w ++ rest) = .ok rest := by
  induction w with
  | nil => rfl
  | cons b w ih => rw [List.cons_append, word, if_pos rfl, ih]

/-! ## Values -/

/-- Whether a value may begin so: with no blank and not with what closes a list. -/
def StartsValue : Bytes → Prop
  | [] => False
  | b :: _ => isBlank b = false ∧ b ≠ 0x5d

/-- Whether a value, be it a number, has ended before these bytes. -/
def EndsValue : Bytes → Prop
  | [] => True
  | b :: _ => isDigit b = false ∧ b ≠ 0x2e ∧ b ≠ 0x65 ∧ b ≠ 0x45

theorem StartsValue.exists_cons {bs : Bytes} (h : StartsValue bs) :
    ∃ b tail, bs = b :: tail ∧ isBlank b = false ∧ b ≠ 0x5d := by
  cases bs with
  | nil => exact h.elim
  | cons b tail => exact ⟨b, tail, rfl, h⟩

theorem StartsValue.skipBlanks_append {text : Bytes} (h : StartsValue text) {gap : Bytes}
    (hgap : IsGap gap) (rest : Bytes) : skipBlanks (gap ++ (text ++ rest)) = text ++ rest := by
  obtain ⟨b, tail, rfl, hb, -⟩ := h.exists_cons
  rw [skipBlanks_gap hgap, List.cons_append, skipBlanks_cons hb]

theorem endsValue_gap {gap bs : Bytes} (hgap : IsGap gap) (h : EndsValue bs) :
    EndsValue (gap ++ bs) := by
  cases gap with
  | nil => exact h
  | cons b gap =>
    have hb : isBlank b = true := hgap b List.mem_cons_self
    simp only [isBlank, Bool.or_eq_true, beq_iff_eq] at hb
    rcases hb with ((rfl | rfl) | rfl) | rfl <;> exact ⟨by decide, by decide, by decide, by decide⟩

/-- Whether `item` reads `a` from the text, whatever follows it. -/
structure Spells {α : Type} (item : Bytes → Read α) (text : Bytes) (a : α) : Prop where
  start : StartsValue text
  read : ∀ rest, EndsValue rest → item (text ++ rest) = .ok (a, rest)

namespace Spells

variable {α β : Type} {item : Bytes → Read α} {text : Bytes} {a : α}

theorem skipBlanks_append (h : Spells item text a) {gap : Bytes} (hgap : IsGap gap)
    (rest : Bytes) : skipBlanks (gap ++ (text ++ rest)) = text ++ rest :=
  h.start.skipBlanks_append hgap rest

theorem within (h : Spells item text a) (segment : Segment) :
    Spells (fun bs => within segment (item bs)) text a where
  start := h.start
  read rest hrest := by rw [h.read rest hrest, Json.within]

theorem map (h : Spells item text a) (f : α → β) :
    Spells (fun bs => (item bs).map fun (a, rest) => (f a, rest)) text (f a) where
  start := h.start
  read rest hrest := by
    rw [h.read rest hrest]
    rfl

end Spells

/-- A value of another kind than the one that is wanted is not read. -/
theorem mismatch_ne_ok {α : Type} (wanted : Wanted) (bs : Bytes) (a : α) :
    Decoder.mismatch wanted bs ≠ .ok a := by
  cases bs with
  | nil => exact nofun
  | cons b bs =>
    unfold Decoder.mismatch
    intro h
    repeat' split at h
    all_goals exact nomatch h

/-- A text that spells a value, in any gaps, is read as the value. -/
theorem readAll_of_spells {α : Type} {item : Bytes → Read α} {text : Bytes} {a : α}
    (h : Spells item text a) {gap gap' : Bytes} (hgap : IsGap gap) (hgap' : IsGap gap') :
    readAll item (gap ++ (text ++ gap')) = .ok a := by
  have hend : EndsValue gap' := by
    have hends : EndsValue (gap' ++ []) := endsValue_gap hgap' trivial
    rwa [List.append_nil] at hends
  have hskip : skipBlanks gap' = [] := by
    have hblank := skipBlanks_gap hgap' []
    rwa [List.append_nil] at hblank
  rw [readAll, h.skipBlanks_append hgap, h.read gap' hend]
  simp only [hskip]

/-- At the head of a text a value is read whatever follows. -/
theorem readHead_of_spells {α : Type} {item : Bytes → Read α} {text : Bytes} {a : α}
    (h : Spells item text a) {rest : Bytes} (hrest : EndsValue rest) :
    readHead item (text ++ rest) = .ok a := by
  have hskip := h.skipBlanks_append isGap_nil rest
  rw [List.nil_append] at hskip
  rw [readHead, hskip, h.read rest hrest]
  rfl

/-! ## Lists -/

section

variable {α : Type} {item : Nat → Bytes → Read α}

/-- Whether `bs` is further items, the first of them at position `i`, in the text of a list: each
after a comma, and all in gaps. -/
inductive Items (item : Nat → Bytes → Read α) : Nat → Bytes → List α → Prop
  | nil {i : Nat} {gap : Bytes} (hgap : IsGap gap) : Items item i gap []
  | cons {i : Nat} {gap gap' text more : Bytes} {a : α} {as : List α} (hgap : IsGap gap)
      (hgap' : IsGap gap') (hitem : Spells (item i) text a) (hmore : Items item (i + 1) more as) :
      Items item i (gap ++ 0x2c :: (gap' ++ (text ++ more))) (a :: as)

theorem endsValue_closed (rest : Bytes) : EndsValue (0x5d :: rest) :=
  ⟨by decide, by decide, by decide, by decide⟩

theorem endsValue_comma (rest : Bytes) : EndsValue (0x2c :: rest) :=
  ⟨by decide, by decide, by decide, by decide⟩

theorem Items.endsValue {i : Nat} {bs : Bytes} {as : List α} (h : Items item i bs as)
    (rest : Bytes) : EndsValue (bs ++ 0x5d :: rest) := by
  cases h with
  | nil hgap => exact endsValue_gap hgap (endsValue_closed rest)
  | cons hgap _ _ _ =>
    rw [List.append_assoc]
    exact endsValue_gap hgap (endsValue_comma _)

/-- The loop over further items takes one of them. -/
theorem moreItems_comma {i fuel : Nat} {bs text more rest : Bytes} {a : α}
    (hbs : skipBlanks bs = 0x2c :: rest) (hrest : skipBlanks rest = text ++ more)
    (h : Spells (item i) text a) (hmore : EndsValue more) (read : List α) :
    moreItems item (fuel + 1) i read bs = moreItems item fuel (i + 1) (a :: read) more := by
  have hread := h.read more hmore
  obtain ⟨b, tail, rfl, -, hb⟩ := h.start.exists_cons
  rw [moreItems, hbs]
  simp only [hrest]
  rw [List.cons_append] at hread ⊢
  split
  · next heq => cases heq
  · next heq => exact absurd (List.cons.inj heq).1 hb
  · rw [hread]

theorem moreItems_of_items {i fuel : Nat} {bs : Bytes} {as : List α} (h : Items item i bs as)
    (hfuel : bs.length < fuel) (read : List α) (rest : Bytes) :
    moreItems item fuel i read (bs ++ 0x5d :: rest) = .ok (read.reverse ++ as, rest) := by
  induction h generalizing fuel read with
  | nil hgap =>
    obtain ⟨fuel, rfl⟩ := Nat.exists_eq_add_one_of_ne_zero (Nat.ne_zero_of_lt hfuel)
    rw [moreItems, skipBlanks_gap hgap, skipBlanks_cons (by decide), List.append_nil]
    rfl
  | @cons i gap gap' text more a as hgap hgap' hitem hmore ih =>
    obtain ⟨fuel, rfl⟩ := Nat.exists_eq_add_one_of_ne_zero (Nat.ne_zero_of_lt hfuel)
    have hshort : more.length < fuel := by
      simp only [List.length_append, List.length_cons] at hfuel
      omega
    have hbs : skipBlanks ((gap ++ 0x2c :: (gap' ++ (text ++ more))) ++ 0x5d :: rest) =
        0x2c :: (gap' ++ (text ++ (more ++ 0x5d :: rest))) := by
      simp only [List.append_assoc, List.cons_append]
      rw [skipBlanks_gap hgap, skipBlanks_cons (by decide)]
    rw [moreItems_comma hbs (hitem.skipBlanks_append hgap' _) hitem (hmore.endsValue rest),
      ih hshort, List.reverse_cons, List.append_assoc, List.singleton_append]

/-- What stands before the first comma of further items is a gap. -/
theorem Items.exists_of_comma {i : Nat} {bs : Bytes} {as : List α}
    (h : Items item i (0x2c :: bs) as) :
    ∃ gap text more a tail, bs = gap ++ (text ++ more) ∧ IsGap gap ∧ Spells (item i) text a ∧
      Items item (i + 1) more tail ∧ as = a :: tail := by
  generalize hcs : 0x2c :: bs = cs at h
  cases h with
  | nil hgap => exact absurd (hcs ▸ hgap) (not_isGap_comma bs)
  | @cons _ gap gap' text more a tail hgap hgap' hitem hmore =>
    obtain ⟨-, hbs⟩ := eq_of_gap_comma hgap hcs
    exact ⟨gap', text, more, a, tail, hbs, hgap', hitem, hmore, rfl⟩

/-- The first item of a list has no comma before it. -/
theorem listItems_of_items {bs : Bytes} {as : List α} (h : Items item 0 (0x2c :: bs) as)
    (rest : Bytes) : listItems item (bs ++ 0x5d :: rest) = .ok (as, rest) := by
  obtain ⟨gap, text, more, a, tail, rfl, hgap, hitem, hmore, rfl⟩ := h.exists_of_comma
  have hskip := hitem.skipBlanks_append hgap (more ++ 0x5d :: rest)
  have hread := hitem.read _ (hmore.endsValue rest)
  obtain ⟨b, text, rfl, -, hb⟩ := hitem.start.exists_cons
  rw [List.append_assoc, List.append_assoc, listItems, hskip]
  rw [List.cons_append] at hread ⊢
  split
  · next heq => cases heq
  · next heq => exact absurd (List.cons.inj heq).1 hb
  · rw [hread]
    refine moreItems_of_items hmore ?_ [a] rest
    rw [List.length_append]
    omega

theorem listItems_nil {gap : Bytes} (hgap : IsGap gap) (rest : Bytes) :
    listItems item (gap ++ 0x5d :: rest) = .ok ([], rest) := by
  rw [listItems, skipBlanks_gap hgap, skipBlanks_cons (by decide)]
  rfl

end

/-! ## Objects -/

theorem readColon_gap {gap : Bytes} (hgap : IsGap gap) (bs : Bytes) :
    readColon (gap ++ 0x3a :: bs) = .ok bs := by
  rw [readColon, skipBlanks_gap hgap, skipBlanks_cons (by decide)]
  rfl

section

variable {σ : Type} {member : σ → String → Bytes → Read σ}

/-- Whether `bs` is further members in the text of an object, each after a comma and all in gaps,
by which `s` becomes another state. -/
inductive Members (member : σ → String → Bytes → Read σ) : σ → Bytes → σ → Prop
  | nil {s : σ} {gap : Bytes} (hgap : IsGap gap) : Members member s gap s
  | cons {s s' s'' : σ} {gap gap' name text more : Bytes} {key : String} (hgap : IsGap gap)
      (hgap' : IsGap gap') (hname : ∀ rest, string (name ++ rest) = .ok (key, rest))
      (htext : ∀ rest, EndsValue rest → member s key (text ++ rest) = .ok (s', rest))
      (hmore : Members member s' more s'') :
      Members member s (gap ++ 0x2c :: (gap' ++ 0x22 :: (name ++ (text ++ more)))) s''

theorem Members.endsValue {s s' : σ} {bs : Bytes} (h : Members member s bs s') (rest : Bytes) :
    EndsValue (bs ++ 0x7d :: rest) := by
  cases h with
  | nil hgap => exact endsValue_gap hgap ⟨by decide, by decide, by decide, by decide⟩
  | cons hgap _ _ _ _ =>
    rw [List.append_assoc]
    exact endsValue_gap hgap (endsValue_comma _)

theorem moreMembers_of_members {fuel : Nat} {s s' : σ} {bs : Bytes}
    (h : Members member s bs s') (hfuel : bs.length < fuel) (rest : Bytes) :
    moreMembers member fuel s (bs ++ 0x7d :: rest) = .ok (s', rest) := by
  induction h generalizing fuel with
  | nil hgap =>
    obtain ⟨fuel, rfl⟩ := Nat.exists_eq_add_one_of_ne_zero (Nat.ne_zero_of_lt hfuel)
    rw [moreMembers, skipBlanks_gap hgap, skipBlanks_cons (by decide)]
    rfl
  | @cons s s' s'' gap gap' name text more key hgap hgap' hname htext hmore ih =>
    obtain ⟨fuel, rfl⟩ := Nat.exists_eq_add_one_of_ne_zero (Nat.ne_zero_of_lt hfuel)
    have hshort : more.length < fuel := by
      simp only [List.length_append, List.length_cons] at hfuel
      omega
    simp only [List.append_assoc, List.cons_append]
    rw [moreMembers, skipBlanks_gap hgap, skipBlanks_cons (by decide)]
    simp only [skipBlanks_gap hgap', skipBlanks_cons (b := 0x22) (by decide), hname,
      htext _ (hmore.endsValue rest)]
    exact ih hshort

/-- The first member of an object has no comma before it. -/
theorem objectMembers_of_members {s s' : σ} {bs : Bytes} (h : Members member s (0x2c :: bs) s')
    (rest : Bytes) : objectMembers member s (bs ++ 0x7d :: rest) = .ok (s', rest) := by
  generalize hcs : 0x2c :: bs = cs at h
  cases h with
  | nil hgap => exact absurd (hcs ▸ hgap) (not_isGap_comma bs)
  | @cons _ s' _ gap gap' name text more key hgap hgap' hname htext hmore =>
    obtain ⟨-, rfl⟩ := eq_of_gap_comma hgap hcs
    simp only [List.append_assoc, List.cons_append]
    rw [objectMembers, skipBlanks_gap hgap', skipBlanks_cons (by decide)]
    simp only [hname, htext _ (hmore.endsValue rest)]
    refine moreMembers_of_members hmore ?_ rest
    rw [List.length_append]
    omega

theorem objectMembers_nil {gap : Bytes} (hgap : IsGap gap) (s : σ) (rest : Bytes) :
    objectMembers member s (gap ++ 0x7d :: rest) = .ok (s, rest) := by
  rw [objectMembers, skipBlanks_gap hgap, skipBlanks_cons (by decide)]
  rfl

end

end VideoWall.Json
