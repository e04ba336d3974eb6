import VideoWall.Proofs.Elements

/-!
# Escaped text

Escaping a text puts an entity for each character that could begin or end something in a page, and
leaves all else as it is.  Whatever the text looks like, be it made of entities or of pieces of
them, what comes of it has an ampersand only where an entity begins.  So a reader that replaces
entities from left to right stays in step with the one that put them there, and finds the text again
wherever it stands: in an attribute up to the quote, and between tags up to the next one.

    a character becomes an entity, or it stays as it is                    (escapeChar_cases)
    nothing is lost, nothing delimits, and ampersands begin entities          (escape_lossless)
-/

namespace VideoWall.Page

/-- What stands for the characters that do not stand for themselves. -/
def entities : List String := ["&amp;", "&lt;", "&gt;", "&quot;", "&#39;"]

/-! ## Where entities are -/

/-- A character becomes an entity, or it is none that matters and stays as it is. -/
theorem escapeChar_cases (c : Char) :
    (∃ e ∈ entities, escapeChar c = e.toList) ∨
      escapeChar c = [c] ∧ c ≠ '&' ∧ isDelimiter c = false := by
  unfold escapeChar
  split
  · exact .inl ⟨"&amp;", by decide, rfl⟩
  split
  · exact .inl ⟨"&lt;", by decide, rfl⟩
  split
  · exact .inl ⟨"&gt;", by decide, rfl⟩
  split
  · exact .inl ⟨"&quot;", by decide, rfl⟩
  split
  · exact .inl ⟨"&#39;", by decide, rfl⟩
  next hamp hlt hgt hquot hapos =>
    exact .inr ⟨rfl, hamp, by simp [isDelimiter, hlt, hgt, hquot, hapos]⟩

/-- An entity has its only ampersand in front. -/
theorem eq_nil_of_entity {e : String} (he : e ∈ entities) {before after : List Char}
    (h : e.toList = before ++ '&' :: after) : before = [] := by
  have htail : ∀ e ∈ entities, '&' ∉ e.toList.tail := by decide
  cases before with
  | nil => rfl
  | cons b before =>
    have hmem : '&' ∈ e.toList.tail := by simp [h]
    exact absurd hmem (htail e he)

/-- An ampersand in what a character becomes begins it, and it is an entity. -/
theorem entity_of_escapeChar {c : Char} {before after : List Char}
    (h : escapeChar c = before ++ '&' :: after) :
    before = [] ∧ ∃ e ∈ entities, e.toList = '&' :: after := by
  rcases escapeChar_cases c with ⟨e, he, hentity⟩ | ⟨hself, hamp, -⟩
  · rw [hentity] at h
    have hbefore : before = [] := eq_nil_of_entity he h
    rw [hbefore] at h
    exact ⟨hbefore, e, he, h⟩
  · have hmem : '&' ∈ escapeChar c := by simp [h]
    rw [hself, List.mem_singleton] at hmem
    exact absurd hmem.symm hamp

/-- An ampersand in an escaped text begins an entity. -/
theorem entity_of_escape {cs before after : List Char}
    (h : cs.flatMap escapeChar = before ++ '&' :: after) :
    ∃ e ∈ entities, e.toList <+: '&' :: after := by
  induction cs generalizing before with
  | nil => simp at h
  | cons c cs ih =>
    rw [List.flatMap_cons] at h
    -- the ampersand is in what comes of the other characters, or in what the first one becomes
    rcases List.append_eq_append_iff.1 h with ⟨rest, -, hrest⟩ | ⟨rest, hfirst, hrest⟩
    · exact ih hrest
    · cases rest with
      | nil =>
        have hfrom : cs.flatMap escapeChar = [] ++ '&' :: after := hrest.symm
        exact ih hfrom
      | cons d rest =>
        obtain ⟨hd, hafter⟩ := List.cons.inj hrest
        subst hd
        obtain ⟨-, e, he, hentity⟩ := entity_of_escapeChar hfirst
        refine ⟨e, he, cs.flatMap escapeChar, ?_⟩
        rw [hentity, hafter]
        rfl

/-! ## Reading escaped text -/

theorem unescape_escape (s : String) : unescape (escape s) = s := by
  rw [unescape, escape, String.toList_ofList, unescapeChars_flatMap_escapeChar,
    String.ofList_toList]

/-- The text of the first attribute in some markup, as a reader finds it. -/
def attributeText (markup : String) : String :=
  let value := (markup.toList.dropWhile (· != '"')).drop 1
  String.ofList (unescapeChars (value.takeWhile (· != '"')))

/-- The text of the first element in some markup, as a reader finds it. -/
def elementText (markup : String) : String :=
  let content := (markup.toList.dropWhile (· != '>')).drop 1
  String.ofList (unescapeChars (content.takeWhile (· != '<')))

theorem not_mem_escape (s : String) {d : Char} (hd : isDelimiter d = true) :
    d ∉ s.toList.flatMap escapeChar := by
  intro hmem
  rw [isDelimiter_of_mem_escape hmem] at hd
  cases hd

/-- Escaped text goes on up to the next delimiter. -/
theorem takeWhile_escape (s : String) {d : Char} (hd : isDelimiter d = true) (rest : List Char) :
    (s.toList.flatMap escapeChar ++ d :: rest).takeWhile (· != d) =
      s.toList.flatMap escapeChar := by
  have hne : ∀ c ∈ s.toList.flatMap escapeChar, (c != d) = true :=
    fun c hc => bne_iff_ne.2 (ne_of_mem_of_not_mem hc (not_mem_escape s hd))
  rw [List.takeWhile_append_of_pos hne, List.takeWhile_cons]
  simp

theorem drop_dropWhile {cs : List Char} {d : Char} (h : d ∉ cs) (rest : List Char) :
    ((cs ++ d :: rest).dropWhile (· != d)).drop 1 = rest := by
  have hne : ∀ c ∈ cs, (c != d) = true := fun c hc => bne_iff_ne.2 (ne_of_mem_of_not_mem hc h)
  rw [List.dropWhile_append_of_pos hne, List.dropWhile_cons]
  simp

/-- A stream in the selection box is told by its value, and shown, as it is spelled. -/
theorem texts_option (selection : List StreamId) (id : StreamId) :
    attributeText (render (option selection id)) = id.raw ∧
      elementText (render (option selection id)) = id.raw := by
  let text := id.raw.toList.flatMap escapeChar
  let flag := (if selection.contains id then " selected" else "").toList.flatMap escapeChar
  have hmarkup : (render (option selection id)).toList =
      "<option value=".toList ++ '"' :: (text ++ '"' :: (flag ++ '>' :: (text ++ '<' ::
        "/option>".toList))) := by
    simp only [render, option, String.toList_ofList, List.flatMap_cons, List.flatMap_nil,
      Piece.chars]
    rfl
  have hread : String.ofList (unescapeChars text) = id.raw := by
    rw [unescapeChars_flatMap_escapeChar, String.ofList_toList]
  constructor
  · have hvalue := drop_dropWhile (show '"' ∉ "<option value=".toList by decide)
      (text ++ '"' :: (flag ++ '>' :: (text ++ '<' :: "/option>".toList)))
    rw [attributeText, hmarkup, hvalue, takeWhile_escape id.raw rfl, hread]
  · have hflag : '>' ∉ flag := not_mem_escape _ rfl
    have htext : '>' ∉ text := not_mem_escape _ rfl
    have hbefore : '>' ∉ "<option value=".toList ++ '"' :: (text ++ '"' :: flag) := by
      simp [hflag, htext]
    have hcontent := drop_dropWhile hbefore (text ++ '<' :: "/option>".toList)
    rw [List.append_assoc, List.cons_append, List.append_assoc, List.cons_append] at hcontent
    rw [elementText, hmarkup, hcontent, takeWhile_escape id.raw rfl, hread]

/-- Escaping loses nothing and lets nothing through.  To replace the entities in an escaped text,
from left to right, gives back the text, so that no two texts are escaped alike.  No escaped text
has a delimiter in it, and wherever it has an ampersand an entity begins.  Texts are escaped piece
by piece; and a stream in the selection box has its spelling both for its value and for what it
shows. -/
theorem escape_lossless (s : String) :
    unescape (escape s) = s ∧ (∀ t, escape s = escape t ↔ s = t) ∧
      (∀ c ∈ (escape s).toList, c ≠ '<' ∧ c ≠ '>' ∧ c ≠ '"' ∧ c ≠ '\'') ∧
      (∀ before after, (escape s).toList = before ++ '&' :: after →
        ∃ e ∈ entities, e.toList <+: '&' :: after) ∧
      (∀ t, escape (s ++ t) = escape s ++ escape t) ∧
      ∀ selection, attributeText (render (option selection (.parse s))) = s ∧
        elementText (render (option selection (.parse s))) = s := by
  refine ⟨unescape_escape s, fun t => ⟨fun h => ?_, fun h => h ▸ rfl⟩, fun c hc => ?_,
    fun before after h => ?_, fun t => ?_, fun selection => texts_option selection _⟩
  · rw [← unescape_escape s, h, unescape_escape]
  · rw [escape, String.toList_ofList] at hc
    have hplain : isDelimiter c = false := isDelimiter_of_mem_escape hc
    refine ⟨?_, ?_, ?_, ?_⟩ <;> rintro rfl <;> cases hplain
  · rw [escape, String.toList_ofList] at h
    exact entity_of_escape h
  · rw [escape, String.toList_append, List.flatMap_append, String.ofList_append]
    rfl

end VideoWall.Page
