import Mathlib.Data.List.TakeWhile
import VideoWall.Proofs.Brackets

/-!
# Numbers that are written and read

A number has no end of its own: its reader takes digits, points and exponents as long as there are
any.  So a number is read in the same way whatever follows it, as long as that is nothing a number
could go on with, and what follows a value in a text is nothing of the kind.

    a number is read the same before the end of the text and before its rest      (number_append)
    the digits of a natural number are read as the number                       (number_toDigits)
-/

namespace VideoWall.Json

/-! ## What follows a number -/

section

variable {rest : Bytes} (hrest : EndsValue rest)

include hrest

theorem digitsOf_append (bs : Bytes) : digitsOf (bs ++ rest) = digitsOf bs := by
  unfold digitsOf
  induction bs with
  | nil =>
    cases rest with
    | nil => rfl
    | cons b rest => exact List.takeWhile_cons_of_neg (by rw [hrest.1]; exact Bool.false_ne_true)
  | cons b bs ih => rw [List.cons_append, List.takeWhile_cons, List.takeWhile_cons, ih]

theorem afterDigits_append (bs : Bytes) : afterDigits (bs ++ rest) = afterDigits bs ++ rest := by
  unfold afterDigits
  induction bs with
  | nil =>
    cases rest with
    | nil => rfl
    | cons b rest => exact List.dropWhile_cons_of_neg (by rw [hrest.1]; exact Bool.false_ne_true)
  | cons b bs ih =>
    rw [List.cons_append, List.dropWhile_cons, List.dropWhile_cons, ih]
    split <;> rfl

/-- What follows a number begins with no point and no exponent. -/
theorem append_ne_cons {after : Bytes} {b : UInt8} (hb : b = 0x2e ∨ b = 0x65 ∨ b = 0x45)
    (h : ∀ tail, after = b :: tail → False) (tail : Bytes) : after ++ rest ≠ b :: tail := by
  intro heq
  cases after with
  | nil =>
    rw [List.nil_append] at heq
    rw [heq] at hrest
    obtain ⟨-, hpoint, hlower, hupper⟩ := hrest
    rcases hb with rfl | rfl | rfl
    · exact hpoint rfl
    · exact hlower rfl
    · exact hupper rfl
  | cons c after =>
    rw [List.cons_append] at heq
    exact h after (by rw [(List.cons.inj heq).1])

theorem exponentValue_append (e : Nat) (bs : Bytes) :
    exponentValue e (bs ++ rest) = (exponentValue e bs).mapError (· ++ rest) := by
  induction bs generalizing e with
  | nil =>
    cases rest with
    | nil => rfl
    | cons b rest => simp [exponentValue, hrest.1, Except.mapError]
  | cons b bs ih =>
    rw [List.cons_append, exponentValue, exponentValue]
    split
    · split
      · exact ih _
      · rfl
    · rfl

end

/-- Whether what a reader takes for a number does not depend on what follows the number. -/
def IsLocal (reader : Bytes → Read Number) : Prop :=
  ∀ {bs r : Bytes} {n : Number}, reader bs = .ok (n, r) →
    ∀ {rest : Bytes}, EndsValue rest → reader (bs ++ rest) = .ok (n, r ++ rest)

theorem isLocal_finish (negative : Bool) (significand : Nat) (exponent : Int) :
    IsLocal (finish negative significand exponent) := by
  intro bs r n h rest _
  unfold finish at h ⊢
  dsimp only at h ⊢
  split at h
  · next hfinite =>
    rw [if_pos hfinite]
    cases h
    rfl
  · cases h

theorem exists_integral (negative : Bool) (significand : Nat) :
    ∃ n, ∀ rest, integral negative significand rest = .ok (n, rest) := by
  unfold integral
  cases negative with
  | false => exact ⟨_, fun _ => rfl⟩
  | true =>
    by_cases hfits : 0 < significand ∧ significand ≤ twoTo 63
    · exact ⟨.int (-significand), fun rest => by simp [hfits]⟩
    · exact ⟨.float (.number true (Binary64.rankOfRatio significand 1)),
        fun rest => by simp [hfits]⟩

theorem isLocal_integral (negative : Bool) (significand : Nat) :
    IsLocal (integral negative significand) := by
  intro bs r n h rest _
  obtain ⟨m, hm⟩ := exists_integral negative significand
  rw [hm] at h ⊢
  cases h
  rfl

/-- The sign of an exponent, if it has one, and the bytes after it. -/
def exponentSign (bs : Bytes) : Bool × Bytes :=
  match bs with
  | 0x2b :: rest => (false, rest)
  | 0x2d :: rest => (true, rest)
  | _ => (false, bs)

/-- What is read of an exponent after its sign. -/
def exponentAfterSign (negative : Bool) (significand : Nat) (base : Int) (down : Bool)
    (bs : Bytes) : Read Number :=
  match bs with
  | [] => atEnd .endInValue []
  | b :: rest =>
    if !isDigit b then atEnd .badNumber rest
    else
      match exponentValue 0 bs with
      | .ok e => finish negative significand (if down then base - e else base + e) (afterDigits bs)
      | .error rest =>
        if significand ≠ 0 ∧ !down then atEnd .numberTooLarge rest
        else .ok (.float (.number negative 0), afterDigits bs)

theorem exponentPart_eq (negative : Bool) (significand : Nat) (base : Int) (bs : Bytes) :
    exponentPart negative significand base bs =
      exponentAfterSign negative significand base (exponentSign bs).1 (exponentSign bs).2 :=
  rfl

theorem exponentSign_append {bs : Bytes} (h : bs ≠ []) (rest : Bytes) :
    exponentSign (bs ++ rest) = ((exponentSign bs).1, (exponentSign bs).2 ++ rest) := by
  obtain ⟨b, bs, rfl⟩ := List.exists_cons_of_ne_nil h
  rw [List.cons_append]
  unfold exponentSign
  split
  · next heq =>
    cases heq
    rfl
  · next heq =>
    cases heq
    rfl
  · next hplus hminus =>
    split
    · next heq =>
      cases heq
      exact absurd rfl (hplus _)
    · next heq =>
      cases heq
      exact absurd rfl (hminus _)
    · rfl

theorem isLocal_exponentAfterSign (negative : Bool) (significand : Nat) (base : Int)
    (down : Bool) : IsLocal (exponentAfterSign negative significand base down) := by
  intro bs r n h rest hrest
  cases bs with
  | nil => cases h
  | cons b bs =>
    have hvalue := exponentValue_append hrest 0 (b :: bs)
    have hafter := afterDigits_append hrest (b :: bs)
    rw [List.cons_append] at hvalue hafter ⊢
    simp only [exponentAfterSign] at h ⊢
    split at h
    · cases h
    · next hdigit =>
      rw [if_neg hdigit, hvalue, hafter]
      split at h
      · next e he =>
        rw [he]
        exact isLocal_finish _ _ _ h hrest
      · next he =>
        rw [he]
        split at h
        · cases h
        · next hsmall =>
          cases h
          exact if_neg hsmall

theorem isLocal_exponentPart (negative : Bool) (significand : Nat) (base : Int) :
    IsLocal (exponentPart negative significand base) := by
  intro bs r n h rest hrest
  rw [exponentPart_eq] at h ⊢
  have hne : bs ≠ [] := by
    rintro rfl
    cases h
  rw [exponentSign_append hne]
  exact isLocal_exponentAfterSign _ _ _ _ h hrest

theorem isLocal_fractionPart (negative : Bool) (significand : Nat) (base : Int) :
    IsLocal (fractionPart negative significand base) := by
  intro bs r n h rest hrest
  unfold fractionPart at h ⊢
  rw [digitsOf_append hrest, afterDigits_append hrest]
  split at h
  · cases h
  · next hdigits =>
    rw [if_neg hdigits]
    dsimp only at h ⊢
    split at h
    · next heq =>
      rw [heq]
      exact isLocal_exponentPart _ _ _ h hrest
    · next heq =>
      rw [heq]
      exact isLocal_exponentPart _ _ _ h hrest
    · next hlower hupper =>
      split
      · next heq => exact absurd heq (append_ne_cons hrest (by simp) hlower _)
      · next heq => exact absurd heq (append_ne_cons hrest (by simp) hupper _)
      · exact isLocal_finish _ _ _ h hrest

theorem isLocal_unsignedNumber (negative : Bool) : IsLocal (unsignedNumber negative) := by
  intro bs r n h rest hrest
  cases bs with
  | nil => cases h
  | cons b bs =>
    have hdigits := digitsOf_append hrest (b :: bs)
    have hafter := afterDigits_append hrest (b :: bs)
    rw [List.cons_append] at hdigits hafter ⊢
    rw [unsignedNumber] at h ⊢
    rw [digitsOf_append hrest bs, hdigits, hafter]
    split at h
    · cases h
    next hdigit =>
    rw [if_neg hdigit]
    split at h
    · cases h
    next hzero =>
    rw [if_neg hzero]
    dsimp only at h ⊢
    split at h
    · next heq =>
      rw [heq]
      exact isLocal_fractionPart _ _ _ h hrest
    · next heq =>
      rw [heq]
      exact isLocal_exponentPart _ _ _ h hrest
    · next heq =>
      rw [heq]
      exact isLocal_exponentPart _ _ _ h hrest
    · next hpoint hlower hupper =>
      split
      · next heq => exact absurd heq (append_ne_cons hrest (by simp) hpoint _)
      · next heq => exact absurd heq (append_ne_cons hrest (by simp) hlower _)
      · next heq => exact absurd heq (append_ne_cons hrest (by simp) hupper _)
      · split at h
        · next htaken =>
          rw [if_pos htaken]
          exact isLocal_integral _ _ h hrest
        · next htaken =>
          rw [if_neg htaken]
          exact isLocal_finish _ _ _ h hrest

/-- A number is read the same before the end of the text and before its rest. -/
theorem number_append : IsLocal number := by
  intro bs r n h rest hrest
  cases bs with
  | nil => cases h
  | cons b bs =>
    rw [List.cons_append]
    unfold number at h ⊢
    split at h
    · next heq =>
      cases heq
      exact isLocal_unsignedNumber true h hrest
    · next hminus =>
      split
      · next heq =>
        cases heq
        exact absurd rfl (hminus _)
      · exact isLocal_unsignedNumber false h hrest

theorem number_digit {d : UInt8} (hd : isDigit d = true) (bs : Bytes) :
    number (d :: bs) = unsignedNumber false (d :: bs) := by
  unfold number
  split
  · next heq =>
    cases heq
    cases hd
  · rfl

theorem startsValue_of_startsNumber {b : UInt8} (h : startsNumber b = true) (bs : Bytes) :
    StartsValue (b :: bs) := by
  refine ⟨?_, ?_⟩
  · cases hblank : isBlank b with
    | false => rfl
    | true =>
      simp only [isBlank, Bool.or_eq_true, beq_iff_eq] at hblank
      rcases hblank with ((rfl | rfl) | rfl) | rfl <;> cases h
  · rintro rfl
    cases h

theorem startsNumber_of_number {bs rest : Bytes} {n : Number} (h : number bs = .ok (n, rest)) :
    ∃ b tail, bs = b :: tail ∧ startsNumber b = true := by
  cases bs with
  | nil => cases h
  | cons b bs =>
    refine ⟨b, bs, rfl, ?_⟩
    unfold number at h
    split at h
    · next heq =>
      cases heq
      rfl
    · rw [unsignedNumber] at h
      split at h
      · cases h
      · next hdigit => simpa [startsNumber] using Or.inr hdigit

/-- What is read from a number is read from it whatever follows. -/
theorem spells_of_number {α : Type} {item : Decoder α} {text : Bytes} {n : Number} {a : α}
    (htext : number text = .ok (n, []))
    (hitem : ∀ b bs rest, startsNumber b = true → number (b :: bs) = .ok (n, rest) →
      item (b :: bs) = .ok (a, rest)) : Spells item text a := by
  obtain ⟨b, bs, rfl, hb⟩ := startsNumber_of_number htext
  refine ⟨startsValue_of_startsNumber hb bs, fun rest hrest => ?_⟩
  exact hitem b (bs ++ rest) rest hb (number_append htext hrest)

/-! ## Natural numbers -/

theorem utf8EncodeChar_of_isDigit {c : Char} (h : c.isDigit = true) :
    ∃ b, String.utf8EncodeChar c = [b] ∧ isDigit b = true ∧ b.toNat = c.toNat := by
  have hrange : 48 ≤ c.toNat ∧ c.toNat ≤ 57 := by
    simpa [Char.isDigit, UInt32.le_iff_toNat_le] using h
  have hbyte : (UInt8.ofNat c.toNat).toNat = c.toNat :=
    UInt8.toNat_ofNat_of_lt' (Nat.lt_of_le_of_lt hrange.2 (by decide))
  refine ⟨UInt8.ofNat c.toNat, if_pos (Nat.le_trans hrange.2 (by decide)), ?_, hbyte⟩
  simpa [isDigit, UInt8.le_iff_toNat_le, hbyte] using hrange

/-- The value of digits after others of the value `n`. -/
def valueAfter (n : Nat) (ds : Bytes) : Nat := ds.foldl (fun n d => n * 10 + (d.toNat - 0x30)) n

theorem le_valueAfter (n : Nat) (ds : Bytes) : n ≤ valueAfter n ds := by
  induction ds generalizing n with
  | nil => exact Nat.le_refl n
  | cons d ds ih => exact Nat.le_trans (by omega) (ih (n * 10 + (d.toNat - 0x30)))

/-- Digits are gathered one after the other as long as their value is not too large. -/
theorem gather_eq {n : Nat} {ds : Bytes} (h : valueAfter n ds ≤ maxSignificand) :
    gather n ds = (valueAfter n ds, ds.length) := by
  induction ds generalizing n with
  | nil => rfl
  | cons d ds ih =>
    have hfits : n * 10 + digitValue d ≤ maxSignificand :=
      Nat.le_trans (le_valueAfter (n * 10 + digitValue d) ds) h
    have htail : gather (n * 10 + digitValue d) ds = (valueAfter n (d :: ds), ds.length) := ih h
    rw [gather, if_pos hfits, htail]
    rfl

theorem valueAfter_utf8 {cs : List Char} (hcs : ∀ c ∈ cs, c.isDigit = true) (n : Nat) :
    valueAfter n (utf8 cs) = Nat.ofDigitChars 10 cs n := by
  induction cs generalizing n with
  | nil => rfl
  | cons c cs ih =>
    obtain ⟨b, hb, -, hbyte⟩ := utf8EncodeChar_of_isDigit (hcs c List.mem_cons_self)
    have hvalue : b.toNat - 0x30 = c.toNat - '0'.toNat := by
      rw [hbyte]
      rfl
    rw [Nat.ofDigitChars_cons, ← ih fun c hc => hcs c (List.mem_cons_of_mem _ hc), utf8_cons, hb,
      List.singleton_append, valueAfter, List.foldl_cons, hvalue, Nat.mul_comm n]
    rfl

theorem digitsOf_utf8 {cs : List Char} (hcs : ∀ c ∈ cs, c.isDigit = true) :
    digitsOf (utf8 cs) = utf8 cs ∧ afterDigits (utf8 cs) = [] := by
  have hall : ∀ b ∈ utf8 cs, isDigit b = true := by
    intro b hb
    obtain ⟨c, hc, hb⟩ := List.mem_flatMap.1 hb
    obtain ⟨d, hd, hdigit, -⟩ := utf8EncodeChar_of_isDigit (hcs c hc)
    rw [hd] at hb
    rw [List.mem_singleton.1 hb]
    exact hdigit
  exact ⟨List.takeWhile_eq_self_iff.2 hall, List.dropWhile_eq_nil_iff.2 hall⟩

/-- Only zero begins with a zero. -/
theorem toDigits_zero_cons {n : Nat} {cs : List Char} (h : Nat.toDigits 10 n = '0' :: cs) :
    cs = [] := by
  induction n using Nat.strongRecOn generalizing cs with
  | ind n ih =>
    rw [Nat.toDigits_eq_if (by decide)] at h
    split at h
    · exact (List.cons.inj h).2.symm
    · next hn =>
      have hne : Nat.toDigits 10 (n / 10) ≠ [] := Nat.toDigits_ne_nil
      obtain ⟨c, ds, hds⟩ := List.exists_cons_of_ne_nil hne
      rw [hds, List.cons_append] at h
      obtain rfl := (List.cons.inj h).1
      have hnil : ds = [] := ih (n / 10) (by omega) hds
      have hvalue : Nat.ofDigitChars 10 (Nat.toDigits 10 (n / 10)) 0 = n / 10 :=
        Nat.ofDigitChars_ten_toDigits
      rw [hds, hnil] at hvalue
      have hzero : Nat.ofDigitChars 10 ['0'] 0 = 0 := rfl
      omega

/-- The digits of a natural number are read as the number. -/
theorem number_toDigits {n : Nat} (hn : n ≤ maxSignificand) :
    number (utf8 (Nat.toDigits 10 n)) = .ok (.int n, []) := by
  have hdigit : ∀ c ∈ Nat.toDigits 10 n, c.isDigit = true := fun c hc =>
    Nat.isDigit_of_mem_toDigits (by decide) (by decide) hc
  have hvalue : Nat.ofDigitChars 10 (Nat.toDigits 10 n) 0 = n := Nat.ofDigitChars_ten_toDigits
  rw [← valueAfter_utf8 hdigit] at hvalue
  have hgather := gather_eq (hvalue.symm ▸ hn)
  obtain ⟨hdigits, hafter⟩ := digitsOf_utf8 hdigit
  have hne : Nat.toDigits 10 n ≠ [] := Nat.toDigits_ne_nil
  obtain ⟨c, cs, hcs⟩ := List.exists_cons_of_ne_nil hne
  obtain ⟨b, hb, hbdigit, hbyte⟩ := utf8EncodeChar_of_isDigit (hdigit c (by simp [hcs]))
  have hbytes : utf8 (Nat.toDigits 10 n) = b :: utf8 cs := by
    rw [hcs, utf8_cons, hb, List.singleton_append]
  rw [hvalue] at hgather
  rw [hbytes] at hgather hdigits hafter ⊢
  have hzero : ¬(b = 0x30 ∧ (!(digitsOf (utf8 cs)).isEmpty) = true) := by
    rintro ⟨rfl, hmore⟩
    have hc : c = '0' := Char.toNat_inj.1 hbyte.symm
    rw [hc] at hcs
    rw [toDigits_zero_cons hcs] at hmore
    cases hmore
  rw [number_digit hbdigit, unsignedNumber, if_neg (by simp [hbdigit]), if_neg hzero]
  simp only [hdigits, hgather, hafter, if_true]
  rfl

end VideoWall.Json
