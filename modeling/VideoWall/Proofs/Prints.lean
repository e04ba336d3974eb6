import VideoWall.Proofs.Brackets

/-!
# What is printed is read

In either layout the printer puts gaps of blanks between the parts of a value and nothing else, so
that what it prints of a list or of an object is the items or the members in brackets, each after a
comma.  A record takes a member if it has a field of that name, which reads the value; an object of
members that it takes, no two of one name, is read as all that they set, one after the other.

    a printed string is read as the string                                        (spells_text)
    a printed list of what is read one by one is read as the list                 (spells_list)
    a printed object of members that a record takes is read as the record       (spells_record)
-/

namespace VideoWall.Json

/-! ## Layouts -/

theorem isGap_lineBreak (layout : Option Nat) : IsGap (utf8 (lineBreak layout)) := by
  cases layout with
  | none => exact isGap_nil
  | some depth =>
    intro b hb
    obtain ⟨c, hc, hb⟩ := List.mem_flatMap.1 hb
    rcases List.mem_cons.1 hc with rfl | hc
    · rw [List.mem_singleton.1 hb]
      rfl
    · obtain rfl := List.eq_of_mem_replicate hc
      rw [List.mem_singleton.1 hb]
      rfl

theorem exists_utf8_colon (layout : Option Nat) :
    ∃ gap, utf8 (colon layout) = 0x3a :: gap ∧ IsGap gap := by
  cases layout with
  | none => exact ⟨[], rfl, isGap_nil⟩
  | some depth =>
    refine ⟨[0x20], rfl, fun b hb => ?_⟩
    rw [List.mem_singleton.1 hb]
    rfl

theorem colon_deeper (layout : Option Nat) : colon (deeper layout) = colon layout := by
  cases layout <;> rfl

theorem utf8_stringChars (s : String) :
    utf8 (stringChars s) = 0x22 :: (utf8 (s.toList.flatMap escapeChar) ++ [0x22]) := by
  rw [stringChars, utf8_cons, utf8_append]
  rfl

/-! ## Strings and lists -/

theorem spells_text (s : String) : Spells Decoder.text (utf8 (stringChars s)) s where
  start := by
    rw [utf8_stringChars]
    exact ⟨by decide, by decide⟩
  read rest _ := by
    rw [utf8_stringChars, List.cons_append, List.append_assoc, List.singleton_append]
    exact string_stringChars s rest

/-! ## Lists -/

theorem utf8_itemChars_cons (layout : Option Nat) (j : Json) (js : List Json) (cs : List Char) :
    utf8 (itemChars layout (j :: js) ++ cs) =
      0x2c :: (utf8 (lineBreak layout) ++
        (utf8 (chars layout j) ++ utf8 (itemChars layout js ++ cs))) := by
  simp only [itemChars, List.cons_append, List.append_assoc, utf8_cons, utf8_append]
  rfl

/-- The text of a list is its items in brackets, with no comma before the first. -/
theorem utf8_chars_arr_cons (layout : Option Nat) (j : Json) (js : List Json) :
    utf8 (chars layout (.arr (j :: js))) =
      0x5b :: ((utf8 (lineBreak (deeper layout)) ++ (utf8 (chars (deeper layout) j) ++
        utf8 (itemChars (deeper layout) js ++ lineBreak layout))) ++ [0x5d]) := by
  simp only [chars, utf8_cons, utf8_append, List.append_assoc]
  rfl

section

variable {α : Type} {toJson : α → Json} {layout : Option Nat}

theorem items_itemChars {item : Nat → Bytes → Read α}
    (h : ∀ i a, Spells (item i) (utf8 ((toJson a).chars layout)) a) (i : Nat) (as : List α)
    (outer : Option Nat) :
    Items item i (utf8 (itemChars layout (as.map toJson) ++ lineBreak outer)) as := by
  induction as generalizing i with
  | nil => exact .nil (isGap_lineBreak outer)
  | cons a as ih =>
    rw [List.map_cons, utf8_itemChars_cons]
    exact .cons isGap_nil (isGap_lineBreak layout) (h i a) (ih (i + 1))

theorem list_cons (item : Decoder α) (bs : Bytes) :
    Decoder.list item (0x5b :: bs) = listItems (fun i bs => within (.index i) (item bs)) bs :=
  rfl

/-- A printed list of what is read one by one is read as the list. -/
theorem spells_list {item : Decoder α}
    (h : ∀ a, Spells item (utf8 ((toJson a).chars (deeper layout))) a) (as : List α) :
    Spells (Decoder.list item) (utf8 ((Json.arr (as.map toJson)).chars layout)) as := by
  cases as with
  | nil =>
    refine ⟨⟨by decide, by decide⟩, fun rest _ => ?_⟩
    exact (list_cons item _).trans (listItems_nil isGap_nil rest)
  | cons a as =>
    have hitems := items_itemChars (fun i a => (h a).within (.index i)) 0 (a :: as) layout
    rw [List.map_cons, utf8_itemChars_cons] at hitems
    rw [List.map_cons, utf8_chars_arr_cons]
    refine ⟨⟨by decide, by decide⟩, fun rest _ => ?_⟩
    rw [List.cons_append, List.append_assoc, List.singleton_append, list_cons]
    exact listItems_of_items hitems rest

end

/-! ## Records -/

section

variable {σ : Type}

/-- Whether a record has a field of this name that reads the text as a change. -/
def Record.Takes (r : Record σ) (key : String) (text : Bytes) (set : σ → σ) : Prop :=
  ∃ f, r.fields.find? (·.name == key) = some f ∧ Spells f.decode text set

theorem Record.member_of_takes {r : Record σ} {key : String} {text : Bytes} {set : σ → σ}
    (h : r.Takes key text set) {seen : List String} (hseen : key ∉ seen) {gap gap' : Bytes}
    (hgap : IsGap gap) (hgap' : IsGap gap') (s : σ) {rest : Bytes} (hrest : EndsValue rest) :
    r.member (s, seen) key (gap ++ 0x3a :: (gap' ++ (text ++ rest))) =
      .ok ((set s, key :: seen), rest) := by
  obtain ⟨f, hf, hspells⟩ := h
  have hunseen : seen.contains key = false := by simpa using hseen
  rw [Record.member, hf]
  simp only [hunseen, Bool.false_eq_true, if_false, readColon_gap hgap,
    hspells.skipBlanks_append hgap', hspells.read rest hrest]
  rfl

/-- A member that is printed: its key, its value and what becomes of a record by it. -/
structure Entry (σ : Type) where
  key : String
  value : Json
  set : σ → σ

namespace Entry

/-- The members to print. -/
def members (es : List (Entry σ)) : List (String × Json) := es.map fun e => (e.key, e.value)

/-- What becomes of a record by all of them. -/
def setAll (es : List (Entry σ)) (s : σ) : σ := es.foldl (fun s e => e.set s) s

end Entry

theorem utf8_memberChars_cons (layout : Option Nat) (key : String) (value : Json)
    (members : List (String × Json)) (cs : List Char) :
    utf8 (memberChars layout ((key, value) :: members) ++ cs) =
      0x2c :: (utf8 (lineBreak layout) ++ 0x22 ::
        ((utf8 (key.toList.flatMap escapeChar) ++ [0x22]) ++
          ((utf8 (colon layout) ++ utf8 (chars layout value)) ++
            utf8 (memberChars layout members ++ cs)))) := by
  simp only [memberChars, List.cons_append, List.append_assoc, utf8_cons, utf8_append,
    utf8_stringChars]
  rfl

theorem utf8_chars_obj_cons (layout : Option Nat) (key : String) (value : Json)
    (members : List (String × Json)) :
    utf8 (chars layout (.obj ((key, value) :: members))) =
      0x7b :: ((utf8 (lineBreak (deeper layout)) ++ 0x22 ::
        ((utf8 (key.toList.flatMap escapeChar) ++ [0x22]) ++
          ((utf8 (colon (deeper layout)) ++ utf8 (chars (deeper layout) value)) ++
            utf8 (memberChars (deeper layout) members ++ lineBreak layout)))) ++ [0x7d]) := by
  simp only [chars, List.cons_append, List.append_assoc, utf8_cons, utf8_append, utf8_stringChars,
    colon_deeper]
  rfl

theorem members_memberChars {r : Record σ} {layout : Option Nat} {es : List (Entry σ)}
    (h : ∀ e ∈ es, r.Takes e.key (utf8 (chars layout e.value)) e.set)
    (hdistinct : (es.map Entry.key).Nodup) {seen : List String} (hseen : ∀ e ∈ es, e.key ∉ seen)
    (s : σ) (outer : Option Nat) :
    Members r.member (s, seen) (utf8 (memberChars layout (Entry.members es) ++ lineBreak outer))
      (Entry.setAll es s, (es.map Entry.key).reverse ++ seen) := by
  induction es generalizing s seen with
  | nil => exact .nil (isGap_lineBreak outer)
  | cons e es ih =>
    obtain ⟨hnew, hdistinct⟩ := List.nodup_cons.1 hdistinct
    have hunseen : ∀ e' ∈ es, e'.key ∉ e.key :: seen := by
      intro e' he' hmem
      rcases List.mem_cons.1 hmem with heq | hold
      · exact hnew (heq ▸ List.mem_map_of_mem he')
      · exact hseen e' (List.mem_cons_of_mem _ he') hold
    have hname : ∀ rest, string ((utf8 (e.key.toList.flatMap escapeChar) ++ [0x22]) ++ rest) =
        .ok (e.key, rest) := by
      intro rest
      rw [List.append_assoc, List.singleton_append]
      exact string_stringChars e.key rest
    have hvalue : ∀ rest, EndsValue rest →
        r.member (s, seen) e.key ((utf8 (colon layout) ++ utf8 (chars layout e.value)) ++ rest) =
          .ok ((e.set s, e.key :: seen), rest) := by
      intro rest hrest
      obtain ⟨gap, hcolon, hgap⟩ := exists_utf8_colon layout
      rw [hcolon, List.append_assoc]
      exact Record.member_of_takes (h e List.mem_cons_self) (hseen e List.mem_cons_self) isGap_nil
        hgap s hrest
    rw [List.map_cons, List.reverse_cons, List.append_assoc, List.singleton_append,
      Entry.members, List.map_cons, utf8_memberChars_cons]
    exact .cons isGap_nil (isGap_lineBreak layout) hname hvalue
      (ih (fun e he => h e (List.mem_cons_of_mem _ he)) hdistinct hunseen (e.set s))

theorem Record.decode_cons (r : Record σ) (bs : Bytes) :
    r.decode (0x7b :: bs) = match objectMembers r.member (r.blank, []) bs with
      | .error fault => .error fault
      | .ok (s, rest) => r.complete s rest :=
  rfl

theorem Record.complete_of_mem {r : Record σ} {seen : List String}
    (h : ∀ f ∈ r.fields, f.required = true → f.name ∈ seen) (s : σ) (rest : Bytes) :
    r.complete (s, seen) rest = .ok (s, rest) := by
  have hnone : r.fields.find? (fun f => f.required && !seen.contains f.name) = none := by
    rw [List.find?_eq_none]
    intro f hf hmissing
    simp only [Bool.and_eq_true, Bool.not_eq_true', List.contains_eq_mem, decide_eq_false_iff_not]
      at hmissing
    exact hmissing.2 (h f hf hmissing.1)
  rw [Record.complete]
  simp only [hnone]

/-- A printed object of members that a record takes, no two of one name and with all that may not be
missing, is read as the record. -/
theorem spells_record {r : Record σ} {layout : Option Nat} {es : List (Entry σ)}
    (h : ∀ e ∈ es, r.Takes e.key (utf8 (chars (deeper layout) e.value)) e.set)
    (hdistinct : (es.map Entry.key).Nodup)
    (hrequired : ∀ f ∈ r.fields, f.required = true → f.name ∈ es.map Entry.key) :
    Spells r.decode (utf8 (chars layout (.obj (Entry.members es)))) (Entry.setAll es r.blank) := by
  have hcomplete (rest : Bytes) :
      r.complete (Entry.setAll es r.blank, (es.map Entry.key).reverse) rest =
        .ok (Entry.setAll es r.blank, rest) :=
    Record.complete_of_mem (fun f hf hr => List.mem_reverse.2 (hrequired f hf hr)) _ rest
  cases es with
  | nil =>
    refine ⟨⟨by decide, by decide⟩, fun rest _ => (r.decode_cons (0x7d :: rest)).trans ?_⟩
    have hmembers : objectMembers r.member (r.blank, []) (0x7d :: rest) =
        .ok ((r.blank, []), rest) :=
      objectMembers_nil isGap_nil _ rest
    rw [hmembers]
    exact hcomplete rest
  | cons e es =>
    have hmembers := members_memberChars h hdistinct (fun _ _ => List.not_mem_nil) r.blank layout
    rw [List.append_nil, Entry.members, List.map_cons, utf8_memberChars_cons] at hmembers
    rw [Entry.members, List.map_cons, utf8_chars_obj_cons]
    refine ⟨⟨by decide, by decide⟩, fun rest _ => ?_⟩
    rw [List.cons_append, List.append_assoc, List.singleton_append, Record.decode_cons,
      objectMembers_of_members hmembers]
    exact hcomplete rest

end

end VideoWall.Json
