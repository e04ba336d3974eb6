import Mathlib.Algebra.Order.Field.Rat
import Mathlib.Tactic.Linarith
import Mathlib.Tactic.NormNum
import Mathlib.Tactic.Ring
import VideoWall.Panel
import VideoWall.Proofs.Roundings

/-!
# The age of metadata

An age is rounded twice: its milliseconds are divided by a thousand in floating point, and the
quotient is rounded to tenths of a second.  Two roundings can add up, so that the tenths need not be
those nearest to the true quotient.  But up to `2^53` milliseconds the float is less than one
millisecond off, and the tenths nearest to it are then within half a tenth of the true quotient,
since that is a whole number of milliseconds.  It follows that they grow with it.

    the quotient is less than one millisecond off                              (quotient_near)
    the tenths are within half a tenth of the milliseconds                        (tenths_near)
    the age is within half a tenth of the time that has passed                  (age_of_millis)
-/

namespace VideoWall

/-! ## Ages -/

namespace Age

open Binary64

variable {ms : Nat}

/-- The rank of so many milliseconds in seconds. -/
def quotient (ms : Nat) : Nat := rankDiv (rankOfRatio ms 1) (rankOfRatio 1000 1)

/-- The tenths of a second in so many milliseconds, as they are printed. -/
def tenths (ms : Nat) : Nat := roundHalfEven (units (quotient ms) * 10) unitsPerOne

theorem quotient_eq (h : ms < twoTo 53) : quotient ms = rankOfRatio ms 1000 :=
  rankDiv_eq (units_rankOfRatio_nat h) (units_rankOfRatio_nat (by decide))

theorem lt_thousand (h : ms < twoTo 53) : ms < 1000 * twoTo 1023 :=
  calc ms < twoTo 53 := h
    _ ≤ twoTo 1023 := twoTo_mono (by decide)
    _ ≤ 1000 * twoTo 1023 := Nat.le_mul_of_pos_left _ (by decide)

theorem quotient_finite (h : ms < twoTo 53) : quotient ms < infinityRank := by
  rw [quotient_eq h, rankOfRatio_eq]
  exact Nat.lt_of_le_of_lt (Nat.min_le_right _ _) (rankOfRatio_finite (by decide) (lt_thousand h))

/-- The last bit of the quotient is worth less than two milliseconds. -/
theorem bit_lt (h : ms < twoTo 53) : 1000 * twoTo (surplus ms 1000) < 2 * unitsPerOne := by
  by_cases hzero : surplus ms 1000 = 0
  · have hone : twoTo 9 ≤ unitsPerOne := twoTo_mono (by decide)
    have hnine : twoTo 9 = 512 := rfl
    have hbit : twoTo 0 = 1 := rfl
    rw [hzero, hbit]
    omega
  · have hle := le_of_surplus hzero
    have hone : 0 < unitsPerOne := twoTo_pos 1074
    have hdouble : twoTo 53 = twoTo 52 * 2 := twoTo_succ 52
    have hbits : 1000 * twoTo (surplus ms 1000) * twoTo 52 < 2 * unitsPerOne * twoTo 52 := by
      calc 1000 * twoTo (surplus ms 1000) * twoTo 52 ≤ ms * unitsPerOne := hle
        _ < twoTo 53 * unitsPerOne := Nat.mul_lt_mul_of_pos_right h hone
        _ = 2 * unitsPerOne * twoTo 52 := by
            rw [hdouble]
            ring
    exact Nat.lt_of_mul_lt_mul_right hbits

/-- The quotient is less than a millisecond off. -/
theorem quotient_near (h : ms < twoTo 53) :
    units (quotient ms) * 1000 < ms * unitsPerOne + unitsPerOne ∧
      ms * unitsPerOne < units (quotient ms) * 1000 + unitsPerOne := by
  obtain ⟨hup, hdown⟩ := rankOfRatio_near (by decide) (lt_thousand h)
  have hbit := bit_lt h
  rw [← quotient_eq h] at hup hdown
  omega

/-- The tenths are within half a tenth of the milliseconds: being off by more means being off by
a whole millisecond more, and the quotient is not. -/
theorem tenths_near (h : ms < twoTo 53) :
    100 * tenths ms ≤ ms + 50 ∧ ms ≤ 100 * tenths ms + 50 := by
  obtain ⟨hup, hdown⟩ := quotient_near h
  have hone : 0 < unitsPerOne := twoTo_pos 1074
  have hround := two_mul_roundHalfEven_mul_le (units (quotient ms) * 10) unitsPerOne
  have hround' := two_mul_le_roundHalfEven_mul (units (quotient ms) * 10) unitsPerOne hone
  rw [← tenths] at hround hround'
  generalize tenths ms = t at *
  generalize units (quotient ms) = q at *
  generalize unitsPerOne = one at *
  have hlt : (100 * t) * one < (ms + 51) * one := by
    rw [Nat.mul_assoc, Nat.add_mul]
    omega
  have hlt' : ms * one < (100 * t + 51) * one := by
    rw [Nat.add_mul, Nat.mul_assoc]
    omega
  have hu := Nat.lt_of_mul_lt_mul_right hlt
  have hd := Nat.lt_of_mul_lt_mul_right hlt'
  omega

theorem tenths_mono {later : Nat} (h : later < twoTo 53) (hle : ms ≤ later) :
    tenths ms ≤ tenths later := by
  obtain ⟨hup, -⟩ := tenths_near (Nat.lt_of_le_of_lt hle h)
  obtain ⟨-, hdown⟩ := tenths_near h
  rcases Nat.lt_or_eq_of_le hle with hlt | rfl
  · omega
  · exact Nat.le_refl _

/-- So many tenths as a decimal number with one digit after the point. -/
def decimal (tenths : Nat) : String := toString (tenths / 10) ++ "." ++ toString (tenths % 10)

theorem oneDecimal_eq {rank : Nat} (h : rank < infinityRank) :
    (Binary64.number false rank).oneDecimal =
      decimal (roundHalfEven (units rank * 10) unitsPerOne) := by
  rw [oneDecimal, if_pos h]
  generalize roundHalfEven (units rank * 10) unitsPerOne = t
  rw [← String.toList_inj, String.toList_ofList]
  simp [signed, tenthsText, decimal]

/-- The whole milliseconds that have passed; none if the clock went backwards. -/
def millis (last now : Instant) : Nat := (last.millisBetween now).toNat

theorem describeAge_eq {last now : Instant} (h : millis last now < twoTo 53) :
    describeAge (some last) now = decimal (tenths (millis last now)) ++ "s ago" :=
  congrArg (· ++ "s ago") (oneDecimal_eq (quotient_finite h))

theorem millis_of_backwards {last now : Instant} (h : now.nanoseconds ≤ last.nanoseconds) :
    millis last now = 0 := by
  have hback : last.millisBetween now = -((last.nanoseconds - now.nanoseconds).tdiv 1000000) := by
    rw [← Int.neg_tdiv, Int.neg_sub]
    rfl
  have hnonneg : 0 ≤ (last.nanoseconds - now.nanoseconds).tdiv 1000000 :=
    Int.tdiv_nonneg (by omega) (by decide)
  rw [millis, hback]
  omega

theorem tenths_zero : tenths 0 = 0 := by
  have hnear : 100 * tenths 0 ≤ 0 + 50 ∧ 0 ≤ 100 * tenths 0 + 50 := tenths_near (twoTo_pos 53)
  omega

/-- As long as less than `2^53` milliseconds have passed since an update, its age is printed as a
decimal number with one digit after the point, which is off by half a tenth of a second at most and
does not fall as the milliseconds grow.  If the clock went backwards, it is zero. -/
theorem age_of_millis (last now : Instant) (h : millis last now < 2 ^ 53) :
    ∃ t : ℕ, describeAge (some last) now = decimal t ++ "s ago" ∧
      |(t : ℚ) / 10 - millis last now / 1000| ≤ 1 / 20 ∧
      (now.nanoseconds ≤ last.nanoseconds → describeAge (some last) now = "0.0s ago") ∧
      ∀ last' now' : Instant, millis last now ≤ millis last' now' → millis last' now' < 2 ^ 53 →
        ∃ t' : ℕ, describeAge (some last') now' = decimal t' ++ "s ago" ∧
          t ≤ t' := by
  refine ⟨tenths (millis last now), describeAge_eq h, ?_, ?_, ?_⟩
  · obtain ⟨hup, hdown⟩ := tenths_near h
    have hup' : 100 * (tenths (millis last now) : ℚ) ≤ millis last now + 50 := by exact_mod_cast hup
    have hdown' : (millis last now : ℚ) ≤ 100 * tenths (millis last now) + 50 := by
      exact_mod_cast hdown
    rw [abs_le]
    constructor <;> linarith
  · intro hback
    rw [describeAge_eq h, millis_of_backwards hback, tenths_zero]
    rfl
  · intro last' now' hle h'
    exact ⟨tenths (millis last' now'), describeAge_eq h', tenths_mono h' hle⟩

/-- Nearly `2^53` milliseconds: half a tenth is lost, which is as much as may be, and it is found
again a millisecond later. -/
theorem age_of_most_millis :
    let last : Instant := .ofMillis 0
    let now : Instant := .ofMillis 9007199254740950
    let later : Instant := .ofMillis 9007199254740951
    millis last now = 9007199254740950 ∧ millis last now ≤ millis last later ∧
      millis last later < 2 ^ 53 ∧ describeAge (some last) now = "9007199254740.9s ago" ∧
      ∃ t : ℕ, describeAge (some last) now = decimal t ++ "s ago" ∧
        |(t : ℚ) / 10 - millis last now / 1000| ≤ 1 / 20 ∧
        ∃ t' : ℕ, describeAge (some last) later = decimal t' ++ "s ago" ∧
          t ≤ t' := by
  intro last now later
  have hnow : millis last now = 9007199254740950 := by decide +kernel
  have hle : millis last now ≤ millis last later := by decide +kernel
  have hlater : millis last later < 2 ^ 53 := by decide +kernel
  obtain ⟨t, htext, hnear, -, hgrows⟩ :=
    age_of_millis last now (Nat.lt_of_le_of_lt hle hlater)
  exact ⟨hnow, hle, hlater, by decide +kernel, t, htext, hnear, hgrows last later hle hlater⟩

end Age

end VideoWall
