import VideoWall.Proofs.Grammar
import VideoWall.Proofs.Roundings

/-!
# Floats that are written in decimal

A number that is no integer of 64 bits is read as a significand and a power of ten.  Both of these
are rounded to floats, and so is their product or quotient, so that what is read need not be the
float nearest to the number.  But a significand below `2^53` and a power of ten up to `10^22` are
floats already.  Then there is one rounding only, and the number is read as the float nearest to it.

    a short decimal is scaled to the nearest float                                   (scaled_eq)
    a number is a float, or it is too large                                     (exists_isFloat)
    a number that spells a short decimal is the float nearest to it           (isFloat_of_isShort)
-/

namespace VideoWall

/-! ## Short decimals -/

namespace Decimal

/-- The rank nearest to a decimal. -/
def nearest (d : Decimal) : Nat :=
  Binary64.rankOfRatio (d.digits * tenTo d.exponent.toNat) (tenTo (-d.exponent).toNat)

/-- Whether the digits and the power of ten of a decimal are floats. -/
structure IsShort (d : Decimal) : Prop where
  digits : d.digits < twoTo 53
  low : -22 ≤ d.exponent
  high : d.exponent ≤ 22

theorem IsShort.nearest_lt {d : Decimal} (h : d.IsShort) : d.nearest < Binary64.infinityRank := by
  have hten : tenTo d.exponent.toNat ≤ tenTo 22 :=
    Nat.pow_le_pow_right (by decide) (Int.toNat_le.2 h.high)
  have hlt : d.digits * tenTo d.exponent.toNat < tenTo (-d.exponent).toNat * twoTo 1023 :=
    calc d.digits * tenTo d.exponent.toNat ≤ d.digits * tenTo 22 := Nat.mul_le_mul_left _ hten
      _ < twoTo 53 * tenTo 22 := Nat.mul_lt_mul_of_pos_right h.digits (tenTo_pos 22)
      _ ≤ twoTo 1023 := by decide +kernel
      _ ≤ tenTo (-d.exponent).toNat * twoTo 1023 := Nat.le_mul_of_pos_left _ (tenTo_pos _)
  rw [nearest, Binary64.rankOfRatio_eq]
  exact Nat.lt_of_le_of_lt (Nat.min_le_right _ _) (Binary64.rankOfRatio_finite (tenTo_pos _) hlt)

end Decimal

namespace Json

/-- A short decimal is scaled to the nearest float. -/
theorem scaled_eq {d : Decimal} (h : d.IsShort) : scaled d.digits d.exponent = d.nearest := by
  have hdigits := Binary64.units_rankOfRatio_nat h.digits
  have hlow := h.low
  have hhigh := h.high
  unfold scaled Decimal.nearest
  dsimp only
  by_cases hup : 0 ≤ d.exponent
  · have hpower : Binary64.units (powerRank d.exponent.toNat) =
        tenTo d.exponent.toNat * Binary64.unitsPerOne :=
      Binary64.units_rankOfRatio_tenTo (by omega)
    have hone : (-d.exponent).toNat = 0 := by omega
    rw [if_pos hup, if_pos (by omega), Binary64.rankMul_eq hdigits hpower, hone]
    rfl
  · have hpower : Binary64.units (powerRank (-d.exponent).toNat) =
        tenTo (-d.exponent).toNat * Binary64.unitsPerOne :=
      Binary64.units_rankOfRatio_tenTo (by omega)
    have hone : d.exponent.toNat = 0 := by omega
    rw [if_neg hup, if_pos (by omega), Binary64.rankDiv_eq hdigits hpower, hone]
    exact congrArg (Binary64.rankOfRatio · _) (Nat.mul_one _).symm

/-! ## Numbers as floats -/

/-- The float that a number is. -/
def Number.toFloat : Number → Binary64
  | int i => .ofInt i
  | float x => x

/-- A number and the float that is read from it; a number that is too large has none. -/
def IsFloat (text : Bytes) (x : Binary64) : Prop :=
  IsNumber text ∧ Decoder.binary64 text = .ok (x, [])

/-- Whether a number was read to the end of its text, as this float. -/
def ReadsFloat (result : Read Number) (x : Binary64) : Prop :=
  ∃ n : Number, result = .ok (n, []) ∧ n.toFloat = x

theorem isFloat_of_reads {text : Bytes} {x : Binary64} (h : IsNumber text)
    (hread : ReadsFloat (number text) x) : IsFloat text x := by
  obtain ⟨n, hn, rfl⟩ := hread
  obtain ⟨b, bs, rfl, hb⟩ := startsNumber_of_number hn
  refine ⟨h, ?_⟩
  rw [Decoder.binary64, if_pos hb, hn]
  cases n <;> rfl

/-- A number is a float, or it is too large. -/
theorem exists_isFloat {text : Bytes} (h : IsNumber text) :
    (∃ x, IsFloat text x) ∨
      ∃ left, Decoder.binary64 text = .error { cause := .numberTooLarge, left } := by
  have hwhole := number_of_isNumber h
  rcases hwhole with ⟨n, hn⟩ | ⟨left, hlarge⟩
  · exact .inl ⟨n.toFloat, isFloat_of_reads h ⟨n, hn, rfl⟩⟩
  · obtain ⟨b, bs, rfl, hb⟩ := h.exists_cons
    exact .inr ⟨left, by rw [Decoder.binary64, if_pos hb, hlarge]⟩

/-! ## Numbers that spell a short decimal -/

/-- The exponent that follows the significand of a number, if there is one. -/
def powerOf : Bytes → Int
  | _ :: 0x2d :: ds => -valueAfter 0 ds
  | _ :: 0x2b :: ds => valueAfter 0 ds
  | ds => valueAfter 0 ds.tail

/-- The decimal that a number spells, apart from its sign. -/
def decimalOf (digits fraction exponent : Bytes) : Decimal where
  digits := valueAfter 0 (digits ++ fraction.tail)
  exponent := powerOf exponent - fraction.tail.length

theorem powerOf_cons {e : UInt8} {sign ds : Bytes} (hsign : IsSign sign) (h : IsDigits ds) :
    powerOf (e :: (sign ++ ds)) =
      if sign == [0x2d] then -(valueAfter 0 ds : Int) else valueAfter 0 ds := by
  cases hsign with
  | none =>
    obtain ⟨d, ds, rfl, hd⟩ := h.exists_cons
    rw [List.nil_append]
    unfold powerOf
    split
    · next heq =>
      cases heq
      cases hd
    · next heq =>
      cases heq
      cases hd
    · rfl
  | plus => rfl
  | minus => rfl

theorem exponentValue_eq {n : Nat} {ds : Bytes} (hds : ∀ d ∈ ds, isDigit d = true)
    (h : valueAfter n ds ≤ maxExponent) : exponentValue n ds = .ok (valueAfter n ds) := by
  induction ds generalizing n with
  | nil => rfl
  | cons d ds ih =>
    have hfits : n * 10 + digitValue d ≤ maxExponent :=
      Nat.le_trans (le_valueAfter (n * 10 + digitValue d) ds) h
    rw [exponentValue, if_pos (hds d List.mem_cons_self), if_pos hfits]
    exact ih (fun d hd => hds d (List.mem_cons_of_mem _ hd)) h

section

variable (negative : Bool) {d : Decimal} (hshort : d.IsShort)

include hshort

theorem reads_finish :
    ReadsFloat (finish negative d.digits d.exponent []) (.number negative d.nearest) := by
  have hfinish : finish negative d.digits d.exponent [] =
      .ok (.float (.number negative d.nearest), []) := by
    rw [finish, scaled_eq hshort, if_pos hshort.nearest_lt]
  exact ⟨_, hfinish, rfl⟩

theorem reads_integral (hd : d.exponent = 0) :
    ReadsFloat (integral negative d.digits []) (.number negative d.nearest) := by
  have hnearest : d.nearest = Binary64.rankOfRatio d.digits 1 := by
    rw [Decimal.nearest, hd]
    exact congrArg (Binary64.rankOfRatio · 1) (Nat.mul_one d.digits)
  rw [hnearest]
  unfold integral
  cases negative with
  | false =>
    have hfloat : Binary64.ofInt d.digits = .number false (Binary64.rankOfRatio d.digits 1) := by
      simp [Binary64.ofInt]
    exact ⟨.int d.digits, rfl, hfloat⟩
  | true =>
    by_cases hpos : 0 < d.digits
    · have hfits : d.digits ≤ twoTo 63 := Nat.le_trans (Nat.le_of_lt hshort.digits) (by decide)
      have hfloat : Binary64.ofInt (-d.digits) =
          .number true (Binary64.rankOfRatio d.digits 1) := by
        simp [Binary64.ofInt, hpos]
      exact ⟨.int (-d.digits), by simp [hpos, hfits], hfloat⟩
    · exact ⟨.float (.number true (Binary64.rankOfRatio d.digits 1)), by simp [hpos], rfl⟩

/-- An exponent is added to that of the digits before it. -/
theorem reads_exponentPart {e : UInt8} {sign ds : Bytes} (hsign : IsSign sign) (h : IsDigits ds)
    (hpower : (powerOf (e :: (sign ++ ds))).natAbs ≤ maxExponent) (base : Int)
    (hd : base + powerOf (e :: (sign ++ ds)) = d.exponent) :
    ReadsFloat (exponentPart negative d.digits base (sign ++ ds)) (.number negative d.nearest) := by
  have hafter : afterDigits ds = [] := by simpa using (digits_append h.2 endsDigits_nil).2
  have hread := reads_finish negative hshort
  rw [powerOf_cons hsign h] at hpower hd
  rw [← hd] at hread
  obtain ⟨b, bs, rfl, hb⟩ := h.exists_cons
  rw [exponentPart_eq, exponentSign_append_digit hsign hb]
  generalize (sign == [0x2d]) = down at hpower hread ⊢
  have hfits : valueAfter 0 (b :: bs) ≤ maxExponent := by
    cases down <;> simpa using hpower
  have hvalue := exponentValue_eq h.2 hfits
  simp only [exponentAfterSign, hb, hafter, hvalue, Bool.not_true, Bool.false_eq_true, if_false]
  cases down <;> exact hread

/-- The digits after the point go on with those before it, and each of them lowers the exponent. -/
theorem reads_fractionPart {ds exponent : Bytes} {n : Nat} (h : IsDigits ds)
    (hexponent : IsExponent exponent) (hpower : (powerOf exponent).natAbs ≤ maxExponent)
    (hn : valueAfter n ds = d.digits) (hd : powerOf exponent - ds.length = d.exponent) :
    ReadsFloat (fractionPart negative n 0 (ds ++ exponent)) (.number negative d.nearest) := by
  have hends : EndsDigits exponent := by simpa using hexponent.endsDigits endsDigits_nil
  have hgather : gather n ds = (d.digits, ds.length) := by
    rw [← hn]
    exact gather_eq (hn ▸ Nat.le_trans (Nat.le_of_lt hshort.digits) (by decide))
  rw [fractionPart_append h hends, afterFraction, hgather]
  cases hexponent with
  | none =>
    have hread := reads_finish negative hshort
    rw [← hd] at hread
    exact hread
  | some he hsign hds =>
    have hread := reads_exponentPart negative hshort hsign hds hpower (0 - ds.length) (by omega)
    rcases he with rfl | rfl <;> exact hread

theorem reads_unsignedNumber {digits fraction exponent : Bytes} (hdigits : IsInteger digits)
    (hfraction : IsFraction fraction) (hexponent : IsExponent exponent)
    (hpower : (powerOf exponent).natAbs ≤ maxExponent)
    (hd : decimalOf digits fraction exponent = d) :
    ReadsFloat (unsignedNumber negative (digits ++ (fraction ++ exponent)))
      (.number negative d.nearest) := by
  have hends : EndsDigits (fraction ++ exponent) := by
    simpa using hfraction.endsDigits (hexponent.endsDigits endsDigits_nil)
  have hvalue : valueAfter (valueAfter 0 digits) fraction.tail = d.digits := by
    rw [← hd, decimalOf, valueAfter, valueAfter, valueAfter, List.foldl_append]
  have hle : valueAfter 0 digits ≤ maxSignificand := by
    have hdigits := hshort.digits
    have hle := le_valueAfter (valueAfter 0 digits) fraction.tail
    have hmax : twoTo 53 ≤ maxSignificand := by decide
    omega
  have hgather := gather_eq hle
  rw [unsignedNumber_append hdigits hends, afterInteger, hgather]
  simp only [Int.sub_self, if_true]
  have hexp : powerOf exponent - fraction.tail.length = d.exponent :=
    congrArg Decimal.exponent hd
  cases hfraction with
  | some h => exact reads_fractionPart negative hshort h hexponent hpower hvalue hexp
  | none =>
    have hvalue : valueAfter 0 digits = d.digits := hvalue
    rw [hvalue]
    cases hexponent with
    | some he hsign h =>
      have hread := reads_exponentPart negative hshort hsign h hpower 0 (by simpa using hexp)
      rcases he with rfl | rfl <;> exact hread
    | none => exact reads_integral negative hshort hexp.symm

end

/-- A number that spells a short decimal is read as the float nearest to it.  Its exponent must be one
that is read, which it is unless the decimal is short only because of a billion digits after the
point. -/
theorem isFloat_of_isShort {sign digits fraction exponent : Bytes}
    (hsign : sign = [] ∨ sign = [0x2d]) (hdigits : IsInteger digits)
    (hfraction : IsFraction fraction) (hexponent : IsExponent exponent)
    (hshort : (decimalOf digits fraction exponent).IsShort)
    (hlength : fraction.length < twoTo 30) :
    IsFloat (sign ++ (digits ++ (fraction ++ exponent)))
      (.number (sign == [0x2d]) (decimalOf digits fraction exponent).nearest) := by
  have hpower : (powerOf exponent).natAbs ≤ maxExponent := by
    have hlow : -22 ≤ powerOf exponent - fraction.tail.length := hshort.low
    have hhigh : powerOf exponent - fraction.tail.length ≤ 22 := hshort.high
    have htail := fraction.length_tail
    have hmax : twoTo 30 + 22 ≤ maxExponent := by decide
    omega
  refine isFloat_of_reads (.mk hsign hdigits hfraction hexponent) ?_
  have hread := reads_unsignedNumber (sign == [0x2d]) hshort hdigits hfraction hexponent hpower rfl
  rcases hsign with rfl | rfl
  · obtain ⟨d, ds, rfl, hd⟩ := hdigits.isDigits.exists_cons
    rw [List.nil_append, List.cons_append, number_digit hd]
    exact hread
  · exact hread

end Json

end VideoWall
