import VideoWall.Json.Token

/-!
# Strings that are written and read

A string is written between quotes, and what would be taken for a quote, for a backslash or for a
control character is written as an escape.  So the text up to the closing quote is a string of
pieces, one for each character: an escape, or a character in UTF-8 that stands for itself.  The
reader takes one piece after the other and stops at the closing quote, whatever follows it.

    the bytes of a text are a text again                                        (fromUTF8?_utf8)
    the piece of a character is read as the character                         (readsAs_escapeChar)
    what is written for a string is read as the string                        (string_stringChars)
-/

namespace VideoWall.Json

/-! ## The bytes of a text -/

/-- The characters in UTF-8. -/
def utf8 (cs : List Char) : Bytes := cs.flatMap String.utf8EncodeChar

@[simp] theorem utf8_nil : utf8 [] = [] := rfl

@[simp] theorem utf8_append (cs ds : List Char) : utf8 (cs ++ ds) = utf8 cs ++ utf8 ds :=
  List.flatMap_append

theorem utf8_cons (c : Char) (cs : List Char) :
    utf8 (c :: cs) = String.utf8EncodeChar c ++ utf8 cs :=
  rfl

theorem loop_toList (bs : ByteArray) (i : Nat) (read : List UInt8) :
    ByteArray.toList.loop bs i read = read.reverse ++ bs.data.toList.drop i := by
  fun_induction ByteArray.toList.loop bs i read with
  | case1 i read h ih =>
    have hi : i < bs.data.toList.length := by simpa using h
    rw [ih, List.drop_eq_getElem_cons hi]
    simp [ByteArray.get!, h]
  | case2 i read h =>
    rw [List.drop_eq_nil_of_le (by simpa using Nat.le_of_not_lt h), List.append_nil]

theorem toList_toUTF8 (s : String) : s.toUTF8.toList = utf8 s.toList := by
  rw [ByteArray.toList, loop_toList, String.toUTF8_eq_toByteArray, ← String.utf8Encode_toList,
    List.utf8Encode, List.toList_data_toByteArray]
  rfl

theorem fromUTF8?_utf8 (s : String) : String.fromUTF8? ⟨(utf8 s.toList).toArray⟩ = some s := by
  have hbytes : (⟨(utf8 s.toList).toArray⟩ : ByteArray) = s.toByteArray := by
    rw [← String.utf8Encode_toList, List.utf8Encode]
    exact ByteArray.ext List.data_toByteArray.symm
  rw [hbytes, String.fromUTF8?, dif_pos s.isValidUTF8]
  rfl

/-! ## Pieces of a string -/

/-- Whether the reader of a string takes `piece` for the bytes `cs`, whatever comes before it and
after it. -/
def ReadsAs (piece cs : Bytes) : Prop :=
  ∃ steps ≤ piece.length, ∀ fuel read rest,
    stringBytes (fuel + steps) read (piece ++ rest) = stringBytes fuel (cs.reverse ++ read) rest

/-- Whether a byte stands for itself in a string. -/
def IsPlain (b : UInt8) : Prop := b ≠ 0x22 ∧ b ≠ 0x5c ∧ ¬b < 0x20

theorem ReadsAs.nil : ReadsAs [] [] := ⟨0, Nat.le_refl 0, fun _ _ _ => rfl⟩

theorem ReadsAs.append {p q cs ds : Bytes} (h : ReadsAs p cs) (k : ReadsAs q ds) :
    ReadsAs (p ++ q) (cs ++ ds) := by
  obtain ⟨a, ha, hp⟩ := h
  obtain ⟨b, hb, hq⟩ := k
  refine ⟨b + a, ?_, fun fuel read rest => ?_⟩
  · rw [List.length_append]
    omega
  · rw [← Nat.add_assoc, List.append_assoc, hp, hq, List.reverse_append, List.append_assoc]

theorem ReadsAs.plain {b : UInt8} (h : IsPlain b) : ReadsAs [b] [b] := by
  refine ⟨1, Nat.le_refl 1, fun fuel read rest => ?_⟩
  simp only [List.singleton_append, stringBytes, if_neg h.1, if_neg h.2.1, if_neg h.2.2,
    List.reverse_singleton]

theorem ReadsAs.escape {e cs : Bytes} (h : ∀ rest, escape (e ++ rest) = .ok (cs, rest)) :
    ReadsAs (0x5c :: e) cs := by
  refine ⟨1, Nat.succ_pos _, fun fuel read rest => ?_⟩
  simp [stringBytes, h]

theorem readsAs_of_isPlain {bs : Bytes} (h : ∀ b ∈ bs, IsPlain b) : ReadsAs bs bs := by
  induction bs with
  | nil => exact .nil
  | cons b bs ih =>
    exact (ReadsAs.plain (h b List.mem_cons_self)).append
      (ih fun b hb => h b (List.mem_cons_of_mem _ hb))

/-- Bytes that read as the bytes of a text are read as the text. -/
theorem string_of_readsAs {text : Bytes} {s : String} (h : ReadsAs text (utf8 s.toList))
    (rest : Bytes) : string (text ++ 0x22 :: rest) = .ok (s, rest) := by
  obtain ⟨steps, hsteps, hread⟩ := h
  obtain ⟨fuel, hfuel⟩ : ∃ fuel, (text ++ 0x22 :: rest).length + 1 = fuel + 1 + steps :=
    ⟨(text ++ 0x22 :: rest).length - steps, by rw [List.length_append]; omega⟩
  have hbytes : stringBytes ((text ++ 0x22 :: rest).length + 1) [] (text ++ 0x22 :: rest) =
      .ok (utf8 s.toList, 0x22 :: rest) := by
    rw [hfuel, hread]
    simp [stringBytes]
  rw [string, hbytes]
  simp only [fromUTF8?_utf8]
  rfl

/-! ## The piece of a character -/

theorem isPlain_ofNat {n : Nat} (hn : n < 256) (hquote : n ≠ 0x22) (hslash : n ≠ 0x5c)
    (hcontrol : 0x20 ≤ n) : IsPlain (UInt8.ofNat n) := by
  have htoNat : (UInt8.ofNat n).toNat = n := UInt8.toNat_ofNat_of_lt' hn
  refine ⟨fun h => hquote ?_, fun h => hslash ?_, fun h => ?_⟩
  · rw [← htoNat, h]
    rfl
  · rw [← htoNat, h]
    rfl
  · rw [UInt8.lt_iff_toNat_lt, htoNat] at h
    exact Nat.not_lt.2 hcontrol h

/-- A character that is no quote, no backslash and no control character has plain bytes. -/
theorem isPlain_of_mem_utf8EncodeChar {c : Char} (hquote : c ≠ '"') (hslash : c ≠ '\\')
    (hcontrol : ¬c.toNat < 0x20) {b : UInt8} (h : b ∈ String.utf8EncodeChar c) : IsPlain b := by
  have hne (d : Char) (hd : c ≠ d) : c.val.toNat ≠ d.toNat := fun h => hd (Char.toNat_inj.1 h)
  unfold String.utf8EncodeChar at h
  dsimp only at h
  split at h
  · rw [List.mem_singleton.1 h]
    exact isPlain_ofNat (by omega) (hne _ hquote) (hne _ hslash) (Nat.not_lt.1 hcontrol)
  -- all bytes of the other characters are at least 128
  split at h
  · simp only [List.mem_cons, List.not_mem_nil, or_false] at h
    rcases h with rfl | rfl <;> exact isPlain_ofNat (by omega) (by omega) (by omega) (by omega)
  split at h
  · simp only [List.mem_cons, List.not_mem_nil, or_false] at h
    rcases h with rfl | rfl | rfl <;>
      exact isPlain_ofNat (by omega) (by omega) (by omega) (by omega)
  · simp only [List.mem_cons, List.not_mem_nil, or_false] at h
    rcases h with rfl | rfl | rfl | rfl <;>
      exact isPlain_ofNat (by omega) (by omega) (by omega) (by omega)

theorem hexValue_digitChar {n : Nat} (h : n < 16) :
    ∃ b, String.utf8EncodeChar (Nat.digitChar n) = [b] ∧ hexValue b = some n := by
  have hall : ∀ n < 16, (String.utf8EncodeChar (Nat.digitChar n)).map hexValue = [some n] := by
    decide
  exact List.map_eq_singleton_iff.1 (hall n h)

/-- A control character is written with the two digits of its code. -/
theorem unicodeEscape_control {c : Char} (h : c.toNat < 0x20) (rest : Bytes) :
    unicodeEscape (utf8 ['0', '0', Nat.digitChar (c.toNat / 16), Nat.digitChar (c.toNat % 16)] ++
      rest) = .ok (String.utf8EncodeChar c, rest) := by
  obtain ⟨a, ha, hhigh⟩ := hexValue_digitChar (n := c.toNat / 16) (by omega)
  obtain ⟨b, hb, hlow⟩ := hexValue_digitChar (n := c.toNat % 16) (by omega)
  have hzero : hexValue 0x30 = some 0 := rfl
  have hbytes : utf8 ['0', '0', Nat.digitChar (c.toNat / 16), Nat.digitChar (c.toNat % 16)] =
      [0x30, 0x30, a, b] := by
    simp only [utf8_cons, ha, hb]
    rfl
  have hcode : ((0 * 16 + 0) * 16 + c.toNat / 16) * 16 + c.toNat % 16 = c.toNat := by omega
  rw [hbytes]
  simp only [List.cons_append, List.nil_append, unicodeEscape, hexQuad, hzero, hhigh, hlow, hcode,
    encodeScalar, Char.ofNat_toNat]
  rw [if_neg (by omega), if_neg (by omega)]

theorem readsAs_escapeChar (c : Char) :
    ReadsAs (utf8 (escapeChar c)) (String.utf8EncodeChar c) := by
  unfold escapeChar
  iterate 7
    split
    · next h => subst h; exact .escape fun rest => rfl
  split
  · next h => exact .escape fun rest => unicodeEscape_control h rest
  · next hquote hslash _ _ _ _ _ hcontrol =>
    rw [utf8_cons, utf8_nil, List.append_nil]
    exact readsAs_of_isPlain fun b hb => isPlain_of_mem_utf8EncodeChar hquote hslash hcontrol hb

theorem readsAs_escaped (cs : List Char) : ReadsAs (utf8 (cs.flatMap escapeChar)) (utf8 cs) := by
  induction cs with
  | nil => exact .nil
  | cons c cs ih =>
    rw [List.flatMap_cons, utf8_append, utf8_cons]
    exact (readsAs_escapeChar c).append ih

/-- What is written for a string after its opening quote is read as the string. -/
theorem string_stringChars (s : String) (rest : Bytes) :
    string (utf8 (s.toList.flatMap escapeChar) ++ 0x22 :: rest) = .ok (s, rest) :=
  string_of_readsAs (readsAs_escaped s.toList) rest

end VideoWall.Json
