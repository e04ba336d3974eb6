import Mathlib.Tactic.Ring
import VideoWall.Proofs.Magnitudes

/-!
# Rounding to a float

A quotient of natural numbers is rounded to as many bits as a significand has, so that half a unit
of the last bit is the most that it moves.  What needs no more bits does not move at all; so
products and quotients of such numbers are rounded only once.

    a quotient is rounded to a float that is half a unit away at most         (rankOfRatio_near)
    whole numbers below 2^53 are floats                                  (units_rankOfRatio_nat)
    powers of ten up to 10^22 are floats                               (units_rankOfRatio_tenTo)
-/

namespace VideoWall

theorem twoTo_add (a b : Nat) : twoTo (a + b) = twoTo a * twoTo b := Nat.pow_add 2 a b

namespace Binary64

variable {n d : Nat}

/-! ## Rounding a quotient -/

/-- What two integers have in common does not matter to their quotient. -/
theorem roundHalfEven_mul_right (n d : Nat) {c : Nat} (hc : 0 < c) :
    roundHalfEven (n * c) (d * c) = roundHalfEven n d := by
  have hlt {a b : Nat} : a * c < b * c ↔ a < b := Nat.mul_lt_mul_right hc
  simp only [roundHalfEven, Nat.mul_div_mul_right _ _ hc, Nat.mul_mod_mul_right, ← Nat.mul_assoc,
    hlt]

/-- How many bits of a quotient are too many for a significand. -/
def surplus (n d : Nat) : Nat := Nat.log2 (n * unitsPerOne / d) - 52

/-- The significand of a quotient, in units of the last of its bits. -/
def significand (n d : Nat) : Nat := roundHalfEven (n * unitsPerOne) (d * twoTo (surplus n d))

theorem rankOfRatio_eq (n d : Nat) :
    rankOfRatio n d = min infinityRank (surplus n d * twoTo 52 + significand n d) :=
  rfl

theorem rankOfRatio_mul_right (n d : Nat) {c : Nat} (hc : 0 < c) :
    rankOfRatio (n * c) (d * c) = rankOfRatio n d := by
  have hn : n * c * unitsPerOne = n * unitsPerOne * c := Nat.mul_right_comm _ _ _
  have hsurplus : surplus (n * c) (d * c) = surplus n d := by
    rw [surplus, hn, Nat.mul_div_mul_right _ _ hc, surplus]
  have hsignificand : significand (n * c) (d * c) = significand n d := by
    rw [significand, hsurplus, hn, Nat.mul_right_comm d, roundHalfEven_mul_right _ _ hc,
      significand]
  rw [rankOfRatio_eq, rankOfRatio_eq, hsurplus, hsignificand]

/-- A quotient without its surplus bits has at most 53, … -/
theorem lt_of_surplus (n : Nat) (hd : 0 < d) :
    n * unitsPerOne < d * twoTo (surplus n d) * twoTo 53 := by
  have hlog : n * unitsPerOne / d < twoTo (surplus n d + 53) := by
    refine Nat.lt_of_lt_of_le Nat.lt_log2_self (twoTo_mono ?_)
    unfold surplus
    omega
  have hmul := Nat.lt_mul_of_div_lt hlog hd
  rw [twoTo_add] at hmul
  calc n * unitsPerOne < twoTo (surplus n d) * twoTo 53 * d := hmul
    _ = d * twoTo (surplus n d) * twoTo 53 := by ring

/-- … and not fewer if there was a surplus. -/
theorem le_of_surplus (h : surplus n d ≠ 0) :
    d * twoTo (surplus n d) * twoTo 52 ≤ n * unitsPerOne := by
  have hlog : surplus n d + 52 = Nat.log2 (n * unitsPerOne / d) := by
    unfold surplus at h ⊢
    omega
  have hne : n * unitsPerOne / d ≠ 0 := by
    intro hzero
    rw [hzero] at hlog
    exact absurd hlog (Nat.succ_ne_zero _)
  have hpow : twoTo (surplus n d + 52) ≤ n * unitsPerOne / d := by
    rw [hlog]
    exact Nat.log2_self_le hne
  rw [twoTo_add] at hpow
  calc d * twoTo (surplus n d) * twoTo 52
      = twoTo (surplus n d) * twoTo 52 * d := by ring
    _ ≤ n * unitsPerOne / d * d := Nat.mul_le_mul_right d hpow
    _ ≤ n * unitsPerOne := Nat.div_mul_le_self _ _

theorem significand_le (n : Nat) (hd : 0 < d) : significand n d ≤ twoTo 53 := by
  have hlt := lt_of_surplus n hd
  have hscale : 0 < d * twoTo (surplus n d) := Nat.mul_pos hd (twoTo_pos _)
  have hround := two_mul_roundHalfEven_mul_le (n * unitsPerOne) (d * twoTo (surplus n d))
  unfold significand
  generalize d * twoTo (surplus n d) = scale at *
  generalize roundHalfEven (n * unitsPerOne) scale = r at *
  refine Nat.le_of_lt_succ (Nat.lt_of_mul_lt_mul_right (a := scale) ?_)
  rw [Nat.succ_mul, Nat.mul_comm (twoTo 53)]
  omega

theorem le_significand (hd : 0 < d) (h : surplus n d ≠ 0) : twoTo 52 ≤ significand n d := by
  have hle := le_of_surplus h
  have hscale : 0 < d * twoTo (surplus n d) := Nat.mul_pos hd (twoTo_pos _)
  have hround :=
    two_mul_le_roundHalfEven_mul (n * unitsPerOne) (d * twoTo (surplus n d)) hscale
  unfold significand
  generalize d * twoTo (surplus n d) = scale at *
  generalize roundHalfEven (n * unitsPerOne) scale = r at *
  refine Nat.le_of_lt_succ (Nat.lt_of_mul_lt_mul_right (a := scale) ?_)
  rw [Nat.succ_mul, Nat.mul_comm (twoTo 52)]
  omega

/-- A rank stands for its significand at its exponent, also where rounding has carried into the
next exponent. -/
theorem units_of_significand {k r : Nat} (hr : r ≤ twoTo 53) (hk : k ≠ 0 → twoTo 52 ≤ r) :
    units (k * twoTo 52 + r) = r * twoTo k := by
  have hpos : 0 < twoTo 52 := twoTo_pos 52
  have hdouble : twoTo 53 = twoTo 52 * 2 := twoTo_succ 52
  rcases Nat.lt_or_ge r (twoTo 52) with hsmall | hbig
  · have hzero : k = 0 := by
      by_contra hne
      exact absurd (hk hne) (Nat.not_le.2 hsmall)
    subst hzero
    rw [Nat.zero_mul, Nat.zero_add, units_of_lt (by omega)]
    exact (Nat.mul_one r).symm
  · obtain ⟨f, rfl⟩ := Nat.exists_eq_add_of_le hbig
    rcases Nat.lt_or_eq_of_le hr with hlt | hcarry
    · have hf : f < twoTo 52 := by omega
      have hdiv : (k * twoTo 52 + (twoTo 52 + f)) / twoTo 52 = k + 1 := by
        rw [← Nat.add_assoc, ← Nat.succ_mul, Nat.mul_comm, Nat.mul_add_div hpos,
          Nat.div_eq_of_lt hf, Nat.add_zero]
      have hmod : (k * twoTo 52 + (twoTo 52 + f)) % twoTo 52 = f := by
        rw [← Nat.add_assoc, ← Nat.succ_mul, Nat.mul_comm, Nat.mul_add_mod, Nat.mod_eq_of_lt hf]
      unfold units
      dsimp only
      rw [hdiv, hmod, if_neg (Nat.succ_ne_zero k), Nat.add_sub_cancel]
    · have hf : f = twoTo 52 := by omega
      subst hf
      have hrank : k * twoTo 52 + (twoTo 52 + twoTo 52) = twoTo 52 * (k + 2) := by
        rw [Nat.mul_comm k, Nat.mul_add, Nat.mul_two]
      unfold units
      dsimp only
      rw [hrank, Nat.mul_div_cancel_left _ hpos, Nat.mul_mod_right, if_neg (Nat.succ_ne_zero _),
        Nat.add_zero, ← Nat.mul_two, Nat.mul_assoc, Nat.mul_comm 2]
      rfl

/-- A quotient below `2^1023` is rounded to a finite float. -/
theorem rankOfRatio_finite (hd : 0 < d) (hn : n < d * twoTo 1023) :
    surplus n d * twoTo 52 + significand n d < infinityRank := by
  have hsurplus : surplus n d ≤ 2044 := by
    by_contra hlarge
    have hle := le_of_surplus (n := n) (d := d) (by omega)
    have hpow : twoTo 1023 * unitsPerOne ≤ twoTo (surplus n d) * twoTo 52 := by
      rw [unitsPerOne, ← twoTo_add, ← twoTo_add]
      exact twoTo_mono (by omega)
    have hmul : d * twoTo 1023 * unitsPerOne ≤ n * unitsPerOne := by
      calc d * twoTo 1023 * unitsPerOne = d * (twoTo 1023 * unitsPerOne) := Nat.mul_assoc _ _ _
        _ ≤ d * (twoTo (surplus n d) * twoTo 52) := Nat.mul_le_mul_left d hpow
        _ = d * twoTo (surplus n d) * twoTo 52 := (Nat.mul_assoc _ _ _).symm
        _ ≤ n * unitsPerOne := hle
    exact absurd hn (Nat.not_lt.2 (Nat.le_of_mul_le_mul_right hmul (twoTo_pos 1074)))
  have hr := significand_le n hd
  have hdouble : twoTo 53 = 2 * twoTo 52 := Nat.mul_comm (twoTo 52) 2
  have hk : surplus n d * twoTo 52 ≤ 2044 * twoTo 52 := Nat.mul_le_mul_right _ hsurplus
  have hpos : 0 < twoTo 52 := twoTo_pos 52
  unfold infinityRank
  omega

theorem units_rankOfRatio (hd : 0 < d) (hn : n < d * twoTo 1023) :
    units (rankOfRatio n d) = significand n d * twoTo (surplus n d) := by
  rw [rankOfRatio_eq, Nat.min_eq_right (Nat.le_of_lt (rankOfRatio_finite hd hn)),
    units_of_significand (significand_le n hd) (le_significand hd)]

/-- A quotient is rounded to a float that is away from it by half a unit of its last bit at most. -/
theorem rankOfRatio_near (hd : 0 < d) (hn : n < d * twoTo 1023) :
    2 * (units (rankOfRatio n d) * d) ≤ 2 * (n * unitsPerOne) + d * twoTo (surplus n d) ∧
      2 * (n * unitsPerOne) ≤ 2 * (units (rankOfRatio n d) * d) + d * twoTo (surplus n d) := by
  have hscale : 0 < d * twoTo (surplus n d) := Nat.mul_pos hd (twoTo_pos _)
  have hunits : units (rankOfRatio n d) * d = significand n d * (d * twoTo (surplus n d)) := by
    rw [units_rankOfRatio hd hn, Nat.mul_assoc, Nat.mul_comm (twoTo _)]
  rw [hunits]
  exact ⟨two_mul_roundHalfEven_mul_le _ _, two_mul_le_roundHalfEven_mul _ _ hscale⟩

/-! ## Numbers that are floats -/

/-- A whole number of at most 53 bits, and zeros that end it, is a float. -/
theorem units_rankOfRatio_mul_twoTo {k : Nat} (h : n < twoTo 53) (hk : k ≤ 970) :
    units (rankOfRatio (n * twoTo k) 1) = n * twoTo k * unitsPerOne := by
  have hlt : n * twoTo k < twoTo 53 * twoTo k := Nat.mul_lt_mul_of_pos_right h (twoTo_pos k)
  have hfinite : n * twoTo k < 1 * twoTo 1023 := by
    rw [← twoTo_add] at hlt
    rw [Nat.one_mul]
    exact Nat.lt_of_lt_of_le hlt (twoTo_mono (by omega))
  have hsurplus : surplus (n * twoTo k) 1 ≤ k + 1074 := by
    by_contra hlarge
    have hle := le_of_surplus (n := n * twoTo k) (d := 1) (by omega)
    have hpow : twoTo 53 * twoTo k * unitsPerOne ≤
        1 * twoTo (surplus (n * twoTo k) 1) * twoTo 52 := by
      rw [unitsPerOne, Nat.one_mul, ← twoTo_add, ← twoTo_add, ← twoTo_add]
      exact twoTo_mono (by omega)
    exact absurd (Nat.lt_of_lt_of_le (Nat.mul_lt_mul_of_pos_right hlt (twoTo_pos 1074)) hpow)
      (Nat.not_lt.2 hle)
  obtain ⟨more, hmore⟩ := Nat.exists_eq_add_of_le hsurplus
  -- the surplus bits are all zero, since the zeros and one are whole numbers of units of the last
  have hunit : twoTo k * unitsPerOne = twoTo more * twoTo (surplus (n * twoTo k) 1) := by
    rw [unitsPerOne, ← twoTo_add, hmore, twoTo_add, Nat.mul_comm]
  rw [units_rankOfRatio Nat.one_pos hfinite, significand, Nat.one_mul, Nat.mul_assoc n, hunit,
    ← Nat.mul_assoc, roundHalfEven_mul _ _ (twoTo_pos _)]

theorem units_rankOfRatio_nat (h : n < twoTo 53) :
    units (rankOfRatio n 1) = n * unitsPerOne := by
  have hfloat := units_rankOfRatio_mul_twoTo h (Nat.zero_le 970)
  rw [show twoTo 0 = 1 from rfl, Nat.mul_one] at hfloat
  exact hfloat

/-- The powers of ten up to `10^22` are floats: apart from zeros that end it, such a power has the
bits of a power of five. -/
theorem units_rankOfRatio_tenTo {k : Nat} (hk : k ≤ 22) :
    units (rankOfRatio (tenTo k) 1) = tenTo k * unitsPerOne := by
  have hten : tenTo k = Nat.pow 5 k * twoTo k := Nat.mul_pow 5 2 k
  have hfive : Nat.pow 5 k < twoTo 53 :=
    Nat.lt_of_le_of_lt (Nat.pow_le_pow_right (by decide) hk) (by decide)
  rw [hten]
  exact units_rankOfRatio_mul_twoTo hfive (by omega)

section

variable {a b : Nat} (ha : units a = n * unitsPerOne) (hb : units b = d * unitsPerOne)

include ha hb

/-- A product of floats that are whole numbers is rounded once. -/
theorem rankMul_eq : rankMul a b = rankOfRatio (n * d) 1 := by
  have hone : 0 < unitsPerOne * unitsPerOne := Nat.mul_pos (twoTo_pos 1074) (twoTo_pos 1074)
  rw [rankMul, ha, hb, Nat.mul_mul_mul_comm]
  have hscale := rankOfRatio_mul_right (n * d) 1 hone
  rwa [Nat.one_mul] at hscale

/-- A quotient of floats that are whole numbers is rounded once. -/
theorem rankDiv_eq : rankDiv a b = rankOfRatio n d := by
  have hone : 0 < unitsPerOne := twoTo_pos 1074
  rw [rankDiv, ha, hb, rankOfRatio_mul_right _ _ hone]

end

end Binary64

end VideoWall
