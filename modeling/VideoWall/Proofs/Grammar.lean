import VideoWall.Proofs.Numbers

/-!
# The grammar of a JSON text

What a JSON text may look like, apart from how it is read.  Lists and objects are parts with commas
between them and brackets around them, and between any two things there may be a gap of blanks.  A
string is a row of pieces, each a plain character or an escape; it need denote no text, since half a
surrogate pair may stand alone in it.  A number may have any size, and what is no integer of 64 bits
is rounded; so only a number that is too large for a float is refused.

    a string that denotes a text is read as the text                       (string_of_spelled)
    a number is read to its end, or it is too large                       (number_of_isNumber)
-/

namespace VideoWall.Json

/-! ## Parts -/

section

variable {α : Type}

/-- Whether `bs` is further parts, each after a comma and all in gaps. -/
inductive MoreParts (part : Bytes → α → Prop) : Bytes → List α → Prop
  | nil {gap : Bytes} (hgap : IsGap gap) : MoreParts part gap []
  | cons {gap gap' text more : Bytes} {a : α} {as : List α} (hgap : IsGap gap) (hgap' : IsGap gap')
      (htext : part text a) (hmore : MoreParts part more as) :
      MoreParts part (gap ++ 0x2c :: (gap' ++ (text ++ more))) (a :: as)

/-- Whether `bs` is parts with commas between them and all in gaps. -/
inductive Parts (part : Bytes → α → Prop) : Bytes → List α → Prop
  | nil {gap : Bytes} (hgap : IsGap gap) : Parts part gap []
  | cons {gap text more : Bytes} {a : α} {as : List α} (hgap : IsGap gap) (htext : part text a)
      (hmore : MoreParts part more as) : Parts part (gap ++ (text ++ more)) (a :: as)

/-- A key in quotes, a colon and the text of a value, in gaps; `name` says what the key is. -/
inductive Member (name : Bytes → α → Prop) : Bytes → α × Bytes → Prop
  | mk {quoted gap gap' text : Bytes} {key : α} (hname : name quoted key) (hgap : IsGap gap)
      (hgap' : IsGap gap') :
      Member name (0x22 :: (quoted ++ 0x22 :: (gap ++ 0x3a :: (gap' ++ text)))) (key, text)

end

/-! ## Strings -/

/-- The letters of the short escapes, each with the character it stands for. -/
def shortEscapes : List (UInt8 × Char) :=
  [(0x22, '"'), (0x5c, '\\'), (0x2f, '/'), (0x62, '\x08'), (0x66, '\x0c'), (0x6e, '\n'),
    (0x72, '\r'), (0x74, '\t')]

/-- Four hexadecimal digits and their value. -/
inductive Quad : Bytes → Nat → Prop
  | mk {a b c d : UInt8} {i j k l : Nat} (ha : hexValue a = some i) (hb : hexValue b = some j)
      (hc : hexValue c = some k) (hd : hexValue d = some l) :
      Quad [a, b, c, d] (((i * 16 + j) * 16 + k) * 16 + l)

/-- Whether this may stand between two quotes. -/
inductive IsString : Bytes → Prop
  | nil : IsString []
  | plain {b : UInt8} {text : Bytes} (hb : IsPlain b) (h : IsString text) : IsString (b :: text)
  | short {b : UInt8} {c : Char} {text : Bytes} (hb : (b, c) ∈ shortEscapes) (h : IsString text) :
      IsString (0x5c :: b :: text)
  | unicode {digits text : Bytes} {n : Nat} (hdigits : Quad digits n) (h : IsString text) :
      IsString (0x5c :: 0x75 :: (digits ++ text))

/-- Whether a piece of a string denotes the character. -/
inductive Denotes : Bytes → Char → Prop
  | plain {c : Char} (hquote : c ≠ '"') (hslash : c ≠ '\\') (hcontrol : ¬c.toNat < 0x20) :
      Denotes (String.utf8EncodeChar c) c
  | short {b : UInt8} {c : Char} (h : (b, c) ∈ shortEscapes) : Denotes [0x5c, b] c
  | unicode {digits : Bytes} {c : Char} (h : Quad digits c.toNat) :
      Denotes (0x5c :: 0x75 :: digits) c
  /-- Two halves of a surrogate pair. -/
  | pair {digits digits' : Bytes} {high low : Nat} {c : Char} (hdigits : Quad digits high)
      (hdigits' : Quad digits' low) (hhigh : 0xd800 ≤ high ∧ high ≤ 0xdbff)
      (hlow : 0xdc00 ≤ low ∧ low ≤ 0xdfff)
      (hc : c.toNat = 0x10000 + (high - 0xd800) * 0x400 + (low - 0xdc00)) :
      Denotes (0x5c :: 0x75 :: (digits ++ 0x5c :: 0x75 :: digits')) c

/-- Whether what stands between two quotes denotes the text. -/
inductive Spelled : Bytes → List Char → Prop
  | nil : Spelled [] []
  | cons {piece text : Bytes} {c : Char} {cs : List Char} (hpiece : Denotes piece c)
      (h : Spelled text cs) : Spelled (piece ++ text) (c :: cs)

theorem hexQuad_of_quad {digits : Bytes} {n : Nat} (h : Quad digits n) (rest : Bytes) :
    hexQuad (digits ++ rest) = .ok (n, rest) := by
  cases h with
  | mk ha hb hc hd => simp only [List.cons_append, List.nil_append, hexQuad, ha, hb, hc, hd]

theorem shortEscape_of_mem {b : UInt8} {c : Char} (h : (b, c) ∈ shortEscapes) :
    ∃ d, shortEscape b = some d ∧ String.utf8EncodeChar c = [d] := by
  have hall : ∀ e ∈ shortEscapes,
      (shortEscape e.1).map ([·]) = some (String.utf8EncodeChar e.2) := by decide
  obtain ⟨d, hd, hc⟩ := Option.map_eq_some_iff.1 (hall _ h)
  exact ⟨d, hd, hc.symm⟩

theorem encodeScalar_toNat (c : Char) : encodeScalar c.toNat = String.utf8EncodeChar c := by
  rw [encodeScalar, Char.ofNat_toNat]

theorem toNat_not_surrogate (c : Char) : ¬(0xd800 ≤ c.toNat ∧ c.toNat ≤ 0xdfff) := by
  have hvalid : c.toNat < 0xd800 ∨ 0xdfff < c.toNat ∧ c.toNat < 0x110000 := c.valid
  omega

/-- Each piece of a string is read as the character it denotes. -/
theorem readsAs_of_denotes {piece : Bytes} {c : Char} (h : Denotes piece c) :
    ReadsAs piece (String.utf8EncodeChar c) := by
  cases h with
  | plain hquote hslash hcontrol =>
    exact readsAs_of_isPlain fun b hb => isPlain_of_mem_utf8EncodeChar hquote hslash hcontrol hb
  | @short b _ h =>
    obtain ⟨d, hd, hc⟩ := shortEscape_of_mem h
    rw [hc]
    exact .escape fun rest => by simp only [List.singleton_append, escape, hd]
  | @unicode digits _ h =>
    refine .escape fun rest => ?_
    have hscalar := toNat_not_surrogate c
    have hread : unicodeEscape (digits ++ rest) = .ok (String.utf8EncodeChar c, rest) := by
      simp only [unicodeEscape, hexQuad_of_quad h, encodeScalar_toNat]
      rw [if_neg (by omega), if_neg (by omega)]
    exact hread
  | @pair digits digits' high low _ hdigits hdigits' hhigh hlow hc =>
    refine .escape fun rest => ?_
    have hsecond : secondHalf high (0x5c :: 0x75 :: (digits' ++ rest)) =
        .ok (String.utf8EncodeChar c, rest) := by
      simp only [secondHalf, hexQuad_of_quad hdigits', if_pos hlow, ← hc, encodeScalar_toNat]
    have hread : unicodeEscape (digits ++ 0x5c :: 0x75 :: (digits' ++ rest)) =
        .ok (String.utf8EncodeChar c, rest) := by
      simp only [unicodeEscape, hexQuad_of_quad hdigits]
      rw [if_neg (by omega), if_pos hhigh, hsecond]
    rw [List.cons_append, List.append_assoc]
    exact hread

/-- A string that denotes a text is read as the text. -/
theorem string_of_spelled {quoted : Bytes} {s : String} (h : Spelled quoted s.toList)
    (rest : Bytes) : string (quoted ++ 0x22 :: rest) = .ok (s, rest) := by
  have hreads {quoted : Bytes} {cs : List Char} (h : Spelled quoted cs) :
      ReadsAs quoted (utf8 cs) := by
    induction h with
    | nil => exact .nil
    | cons hpiece _ ih => exact (readsAs_of_denotes hpiece).append ih
  exact string_of_readsAs (hreads h) rest

/-! ## Numbers -/

/-- One or more digits. -/
def IsDigits (ds : Bytes) : Prop := ds ≠ [] ∧ ∀ d ∈ ds, isDigit d = true

theorem IsDigits.exists_cons {ds : Bytes} (h : IsDigits ds) :
    ∃ d tail, ds = d :: tail ∧ isDigit d = true := by
  obtain ⟨d, tail, rfl⟩ := List.exists_cons_of_ne_nil h.1
  exact ⟨d, tail, rfl, h.2 d List.mem_cons_self⟩

/-- The digits of an integer, of which only a single one may begin with a zero. -/
inductive IsInteger : Bytes → Prop
  | zero : IsInteger [0x30]
  | digits {d : UInt8} {ds : Bytes} (hne : d ≠ 0x30) (h : IsDigits (d :: ds)) : IsInteger (d :: ds)

/-- A point and digits, or nothing. -/
inductive IsFraction : Bytes → Prop
  | none : IsFraction []
  | some {ds : Bytes} (h : IsDigits ds) : IsFraction (0x2e :: ds)

/-- The sign of an exponent, or nothing. -/
inductive IsSign : Bytes → Prop
  | none : IsSign []
  | plus : IsSign [0x2b]
  | minus : IsSign [0x2d]

/-- A power of ten, or nothing. -/
inductive IsExponent : Bytes → Prop
  | none : IsExponent []
  | some {e : UInt8} {sign ds : Bytes} (he : e = 0x65 ∨ e = 0x45) (hsign : IsSign sign)
      (h : IsDigits ds) : IsExponent (e :: (sign ++ ds))

inductive IsNumber : Bytes → Prop
  | mk {sign digits fraction exponent : Bytes} (hsign : sign = [] ∨ sign = [0x2d])
      (hdigits : IsInteger digits) (hfraction : IsFraction fraction)
      (hexponent : IsExponent exponent) : IsNumber (sign ++ (digits ++ (fraction ++ exponent)))

/-- Whether digits have ended before these bytes. -/
def EndsDigits : Bytes → Prop
  | [] => True
  | b :: _ => isDigit b = false

theorem endsDigits_nil : EndsDigits [] := trivial

theorem EndsValue.endsDigits {rest : Bytes} (h : EndsValue rest) : EndsDigits rest := by
  cases rest with
  | nil => trivial
  | cons b rest => exact h.1

theorem IsExponent.endsDigits {exponent rest : Bytes} (h : IsExponent exponent)
    (hrest : EndsDigits rest) : EndsDigits (exponent ++ rest) := by
  cases h with
  | none => exact hrest
  | some he _ _ => rcases he with rfl | rfl <;> rfl

theorem IsFraction.endsDigits {fraction rest : Bytes} (h : IsFraction fraction)
    (hrest : EndsDigits rest) : EndsDigits (fraction ++ rest) := by
  cases h with
  | none => exact hrest
  | some _ => rfl

/-- Digits are taken as far as they go. -/
theorem digits_append {ds rest : Bytes} (h : ∀ d ∈ ds, isDigit d = true) (hrest : EndsDigits rest) :
    digitsOf (ds ++ rest) = ds ∧ afterDigits (ds ++ rest) = rest := by
  rw [digitsOf, afterDigits, List.takeWhile_append_of_pos h, List.dropWhile_append_of_pos h]
  cases rest with
  | nil => exact ⟨List.append_nil ds, rfl⟩
  | cons b rest =>
    have hb : ¬isDigit b = true := by rw [hrest]; exact Bool.false_ne_true
    rw [List.takeWhile_cons_of_neg hb, List.dropWhile_cons_of_neg hb, List.append_nil]
    exact ⟨rfl, rfl⟩

theorem IsInteger.isDigits {ds : Bytes} (h : IsInteger ds) : IsDigits ds := by
  cases h with
  | zero => exact ⟨List.cons_ne_nil _ _, List.forall_mem_singleton.2 rfl⟩
  | digits _ h => exact h

theorem IsNumber.exists_cons {text : Bytes} (h : IsNumber text) :
    ∃ b bs, text = b :: bs ∧ startsNumber b = true := by
  cases h with
  | @mk sign digits fraction exponent hsign hdigits _ _ =>
    obtain ⟨d, ds, rfl, hd⟩ := hdigits.isDigits.exists_cons
    rcases hsign with rfl | rfl
    · exact ⟨d, _, rfl, by simp [startsNumber, hd]⟩
    · exact ⟨0x2d, _, rfl, rfl⟩

/-- No digit follows a leading zero. -/
theorem IsInteger.not_zero_cons {d : UInt8} {ds rest : Bytes} (h : IsInteger (d :: ds))
    (hrest : EndsDigits rest) : ¬(d = 0x30 ∧ (!(digitsOf (ds ++ rest)).isEmpty) = true) := by
  rintro ⟨rfl, hmore⟩
  cases h with
  | zero =>
    have hnil : ∀ b ∈ ([] : Bytes), isDigit b = true := fun _ h => nomatch h
    have hnone := (digits_append hnil hrest).1
    rw [hnone] at hmore
    cases hmore
  | digits hne _ => exact hne rfl

/-- Digits are no sign of an exponent. -/
theorem exponentSign_append_digit {sign : Bytes} (hsign : IsSign sign) {d : UInt8}
    (hd : isDigit d = true) (rest : Bytes) :
    exponentSign (sign ++ d :: rest) = (sign == [0x2d], d :: rest) := by
  cases hsign with
  | none =>
    rw [List.nil_append]
    unfold exponentSign
    split
    · next heq =>
      cases heq
      cases hd
    · next heq =>
      cases heq
      cases hd
    · rfl
  | plus => rfl
  | minus => rfl

/-- What is read of a number after the digits that it begins with. -/
def afterInteger (negative : Bool) (digits rest : Bytes) : Read Number :=
  let (significand, taken) := gather 0 digits
  let dropped : Int := digits.length - taken
  match rest with
  | 0x2e :: rest => fractionPart negative significand dropped rest
  | 0x65 :: rest => exponentPart negative significand dropped rest
  | 0x45 :: rest => exponentPart negative significand dropped rest
  | rest =>
    if taken = digits.length then integral negative significand rest
    else finish negative significand dropped rest

theorem unsignedNumber_append {digits rest : Bytes} (h : IsInteger digits)
    (hrest : EndsDigits rest) (negative : Bool) :
    unsignedNumber negative (digits ++ rest) = afterInteger negative digits rest := by
  obtain ⟨htaken, hafter⟩ := digits_append h.isDigits.2 hrest
  obtain ⟨d, ds, rfl, hd⟩ := h.isDigits.exists_cons
  rw [List.cons_append] at htaken hafter ⊢
  rw [unsignedNumber, if_neg (by simp [hd]), if_neg (h.not_zero_cons hrest), htaken, hafter]
  rfl

/-- What is read of a number after the digits that follow a point. -/
def afterFraction (negative : Bool) (significand : Nat) (base : Int) (ds rest : Bytes) :
    Read Number :=
  let (significand, taken) := gather significand ds
  match rest with
  | 0x65 :: rest => exponentPart negative significand (base - taken) rest
  | 0x45 :: rest => exponentPart negative significand (base - taken) rest
  | rest => finish negative significand (base - taken) rest

theorem fractionPart_append {ds rest : Bytes} (h : IsDigits ds) (hrest : EndsDigits rest)
    (negative : Bool) (significand : Nat) (base : Int) :
    fractionPart negative significand base (ds ++ rest) =
      afterFraction negative significand base ds rest := by
  obtain ⟨hdigits, hafter⟩ := digits_append h.2 hrest
  rw [fractionPart, hdigits, if_neg (by simp [h.1]), hafter]
  rfl

/-- Whether a number was read to the end of its text, or was too large. -/
def IsWhole (result : Read Number) : Prop :=
  (∃ n, result = .ok (n, [])) ∨ ∃ left, result = .error { cause := .numberTooLarge, left }

theorem isWhole_finish (negative : Bool) (significand : Nat) (exponent : Int) :
    IsWhole (finish negative significand exponent []) := by
  unfold finish
  dsimp only
  split
  · exact .inl ⟨_, rfl⟩
  · exact .inr ⟨_, rfl⟩

theorem isWhole_exponentPart {sign ds : Bytes} (hsign : IsSign sign) (h : IsDigits ds)
    (negative : Bool) (significand : Nat) (base : Int) :
    IsWhole (exponentPart negative significand base (sign ++ ds)) := by
  have hafter : afterDigits ds = [] := by simpa using (digits_append h.2 endsDigits_nil).2
  obtain ⟨d, ds, rfl, hd⟩ := h.exists_cons
  rw [exponentPart_eq, exponentSign_append_digit hsign hd]
  simp only [exponentAfterSign, hd, hafter, Bool.not_true, Bool.false_eq_true, if_false]
  split
  · exact isWhole_finish _ _ _
  · split
    · exact .inr ⟨_, rfl⟩
    · exact .inl ⟨_, rfl⟩

theorem isWhole_fractionPart {ds exponent : Bytes} (h : IsDigits ds)
    (hexponent : IsExponent exponent) (negative : Bool) (significand : Nat) (base : Int) :
    IsWhole (fractionPart negative significand base (ds ++ exponent)) := by
  have hends : EndsDigits exponent := by simpa using hexponent.endsDigits endsDigits_nil
  rw [fractionPart_append h hends]
  cases hexponent with
  | none => exact isWhole_finish _ _ _
  | some he hsign h =>
    rcases he with rfl | rfl <;> exact isWhole_exponentPart hsign h _ _ _

theorem isWhole_unsignedNumber {digits fraction exponent : Bytes} (hdigits : IsInteger digits)
    (hfraction : IsFraction fraction) (hexponent : IsExponent exponent) (negative : Bool) :
    IsWhole (unsignedNumber negative (digits ++ (fraction ++ exponent))) := by
  have hends : EndsDigits (fraction ++ exponent) := by
    simpa using hfraction.endsDigits (hexponent.endsDigits endsDigits_nil)
  rw [unsignedNumber_append hdigits hends]
  cases hfraction with
  | some h => exact isWhole_fractionPart h hexponent _ _ _
  | none =>
    cases hexponent with
    | some he hsign h => rcases he with rfl | rfl <;> exact isWhole_exponentPart hsign h _ _ _
    | none =>
      rw [List.append_nil, afterInteger]
      dsimp only
      split
      · obtain ⟨n, hn⟩ := exists_integral negative (gather 0 digits).1
        exact .inl ⟨n, hn []⟩
      · exact isWhole_finish _ _ _

/-- A number is read to its end, or it is too large. -/
theorem number_of_isNumber {text : Bytes} (h : IsNumber text) : IsWhole (number text) := by
  cases h with
  | @mk sign digits fraction exponent hsign hdigits hfraction hexponent =>
    have hwhole := isWhole_unsignedNumber hdigits hfraction hexponent
    rcases hsign with rfl | rfl
    · obtain ⟨d, ds, rfl, hd⟩ := hdigits.isDigits.exists_cons
      rw [List.nil_append, List.cons_append, number_digit hd]
      exact hwhole false
    · exact hwhole true

/-! ## Values -/

/-- Whether a text is JSON. -/
inductive IsJson : Bytes → Prop
  | word {s : String} (h : s ∈ ["null", "true", "false"]) : IsJson (utf8 s.toList)
  | string {quoted : Bytes} (h : IsString quoted) : IsJson (0x22 :: (quoted ++ [0x22]))
  | number {text : Bytes} (h : IsNumber text) : IsJson text
  | list {bs : Bytes} {texts : List Bytes} (hbs : Parts Eq bs texts) (h : ∀ t ∈ texts, IsJson t) :
      IsJson (0x5b :: (bs ++ [0x5d]))
  | object {bs : Bytes} {members : List (Bytes × Bytes)} (hbs : Parts (Member Eq) bs members)
      (hkeys : ∀ m ∈ members, IsString m.1) (h : ∀ m ∈ members, IsJson m.2) :
      IsJson (0x7b :: (bs ++ [0x7d]))

end VideoWall.Json
