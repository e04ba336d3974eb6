import VideoWall.Config

/-!
# The order of magnitudes

Magnitudes are numbered in increasing order: a higher rank stands for a greater magnitude, within
one exponent because of the fraction and from one exponent to the next because the fractions of the
lower one end where those of the higher one begin.  So a float between two others stands for a
number between theirs, and the span of so many seconds is between their spans.  A clamped timeout is
such a float, between 0.2 and 3 seconds.

    a ≤ b → units a ≤ units b                                            (Binary64.units_mono)
    a timeout is left as it is by clamping just if it is in its range    (clampTimeout_eq_self_iff)
    a timeout in its range is a span                                      (exists_span_of_inRange)
-/

namespace VideoWall

theorem twoTo_mono {a b : Nat} (h : a ≤ b) : twoTo a ≤ twoTo b :=
  Nat.pow_le_pow_right (by decide) h

namespace Binary64

variable {rank e : Nat}

/-- A magnitude is below what its exponent allows, … -/
theorem units_lt (rank : Nat) : units rank < twoTo 52 * twoTo (rank / twoTo 52) := by
  have hf : rank % twoTo 52 < twoTo 52 := Nat.mod_lt _ (twoTo_pos 52)
  unfold units
  dsimp only
  split
  · next h =>
    rw [Nat.mod_eq_of_lt ((Nat.div_eq_zero_iff_lt (twoTo_pos 52)).1 h)] at hf
    rw [h]
    exact Nat.lt_of_lt_of_eq hf (Nat.mul_one _).symm
  · next h =>
    obtain ⟨e, he⟩ := Nat.exists_eq_succ_of_ne_zero h
    rw [he, Nat.succ_sub_one]
    calc (twoTo 52 + rank % twoTo 52) * twoTo e
        < (twoTo 52 + twoTo 52) * twoTo e :=
          Nat.mul_lt_mul_of_pos_right (Nat.add_lt_add_left hf _) (twoTo_pos e)
      _ = twoTo 52 * (twoTo e * 2) := by rw [← Nat.mul_two, Nat.mul_assoc, Nat.mul_comm 2]

/-- … and not below what the exponent before it allows. -/
theorem le_units (h : rank / twoTo 52 = e + 1) : twoTo 52 * twoTo e ≤ units rank := by
  unfold units
  dsimp only
  rw [if_neg (by omega), h, Nat.add_sub_cancel]
  exact Nat.mul_le_mul_right _ (Nat.le_add_right _ _)

/-- A higher rank is a greater magnitude. -/
theorem units_mono {a b : Nat} (h : a ≤ b) : units a ≤ units b := by
  rcases Nat.lt_or_eq_of_le (Nat.div_le_div_right (c := twoTo 52) h) with hlt | heq
  · obtain ⟨e, he⟩ := Nat.exists_eq_add_of_lt hlt
    calc units a ≤ twoTo 52 * twoTo (a / twoTo 52) := Nat.le_of_lt (units_lt a)
      _ ≤ twoTo 52 * twoTo (a / twoTo 52 + e) :=
          Nat.mul_le_mul_left _ (twoTo_mono (Nat.le_add_right _ _))
      _ ≤ units b := le_units he
  · have hmod : a % twoTo 52 ≤ b % twoTo 52 := by
      have ha := Nat.div_add_mod a (twoTo 52)
      have hb := Nat.div_add_mod b (twoTo 52)
      rw [heq] at ha
      omega
    unfold units
    dsimp only
    rw [← heq]
    split
    · exact h
    · exact Nat.mul_le_mul_right _ (Nat.add_le_add_left hmod _)

end Binary64

/-- A number of seconds that is between two numbers of nanoseconds is a span between them. -/
theorem Span.exists_ofSeconds {low high rank : Nat} (hhigh : high ≤ longest)
    (hl : low * Binary64.unitsPerOne ≤ Binary64.units rank * 1000000000)
    (hh : Binary64.units rank * 1000000000 ≤ high * Binary64.unitsPerOne) :
    ∃ span, ofSeconds? (.number false rank) = some span ∧ low ≤ span.nanoseconds ∧
      span.nanoseconds ≤ high := by
  simp only [ofSeconds?, Bool.false_and, Bool.false_or, decide_eq_true_eq]
  have hone : 0 < Binary64.unitsPerOne := twoTo_pos 1074
  generalize Binary64.unitsPerOne = one at *
  -- half a unit is the most that rounding moves, too little to get past a whole number
  have hup := Binary64.two_mul_roundHalfEven_mul_le (Binary64.units rank * 1000000000) one
  have hdown := Binary64.two_mul_le_roundHalfEven_mul (Binary64.units rank * 1000000000) one hone
  generalize roundHalfEven (Binary64.units rank * 1000000000) one = ns at *
  have hlow : low ≤ ns := by
    refine Nat.le_of_lt_succ (Nat.lt_of_mul_lt_mul_right (a := one) ?_)
    rw [Nat.succ_mul]
    omega
  have hns : ns ≤ high := by
    refine Nat.le_of_lt_succ (Nat.lt_of_mul_lt_mul_right (a := one) ?_)
    rw [Nat.succ_mul]
    omega
  exact ⟨⟨ns⟩, if_neg (Nat.not_lt.2 (Nat.le_trans hns hhigh)), hlow, hns⟩

/-! ## Timeouts -/

/-- Whether a timeout is a number that lies in the range of timeouts. -/
def TimeoutInRange (x : Binary64) : Prop :=
  x ≠ .nan ∧ x.lt minTimeoutS = false ∧ maxTimeoutS.lt x = false

theorem minTimeoutS_eq : minTimeoutS = .number false 0x3fc999999999999a := by decide +kernel

theorem maxTimeoutS_eq : maxTimeoutS = .number false 0x4008000000000000 := by decide +kernel

theorem defaultTimeoutS_eq : defaultTimeoutS = .number false 0x3fe6666666666666 := by
  decide +kernel

theorem timeoutInRange_iff {x : Binary64} :
    TimeoutInRange x ↔
      ∃ rank, x = .number false rank ∧ 0x3fc999999999999a ≤ rank ∧ rank ≤ 0x4008000000000000 := by
  rw [TimeoutInRange, minTimeoutS_eq, maxTimeoutS_eq]
  constructor
  · rintro ⟨hnan, hlow, hhigh⟩
    cases x with
    | nan => exact absurd rfl hnan
    | number negative rank =>
      simp only [Binary64.lt, Binary64.key, Bool.false_eq_true, if_false,
        decide_eq_false_iff_not] at hlow hhigh
      cases negative with
      | false =>
        simp only [Bool.false_eq_true, if_false] at hlow hhigh
        exact ⟨rank, rfl, by omega, by omega⟩
      | true =>
        simp only [if_true] at hlow
        omega
  · rintro ⟨rank, rfl, hlow, hhigh⟩
    simp only [Binary64.lt, Binary64.key, Bool.false_eq_true, if_false, decide_eq_false_iff_not]
    exact ⟨nofun, by omega, by omega⟩

theorem timeoutInRange_clampTimeout (x : Binary64) : TimeoutInRange (clampTimeout x) := by
  rw [timeoutInRange_iff]
  cases x with
  | nan => exact ⟨_, defaultTimeoutS_eq, by decide, by decide⟩
  | number negative rank =>
    simp only [clampTimeout, Binary64.clamp]
    split
    · exact ⟨_, minTimeoutS_eq, by decide, by decide⟩
    · next hlow =>
      split
      · exact ⟨_, maxTimeoutS_eq, by decide, by decide⟩
      · next hhigh =>
        rw [Bool.not_eq_true] at hlow hhigh
        exact timeoutInRange_iff.1 ⟨by simp, hlow, hhigh⟩

theorem clampTimeout_of_inRange {x : Binary64} (h : TimeoutInRange x) : clampTimeout x = x := by
  cases x with
  | nan => exact absurd rfl h.1
  | number negative rank => simp [clampTimeout, Binary64.clamp, h.2.1, h.2.2]

theorem clampTimeout_eq_self_iff {x : Binary64} : clampTimeout x = x ↔ TimeoutInRange x :=
  ⟨fun h => h ▸ timeoutInRange_clampTimeout x, clampTimeout_of_inRange⟩

/-- A timeout in its range is a span of 0.2 to 3 seconds. -/
theorem exists_span_of_inRange {x : Binary64} (h : TimeoutInRange x) :
    ∃ span, Span.ofSeconds? x = some span ∧ 200000000 ≤ span.nanoseconds ∧
      span.nanoseconds ≤ 3000000000 := by
  obtain ⟨rank, rfl, hlow, hhigh⟩ := timeoutInRange_iff.1 h
  have hmin : 200000000 * Binary64.unitsPerOne ≤
      Binary64.units 0x3fc999999999999a * 1000000000 := by decide +kernel
  have hmax : Binary64.units 0x4008000000000000 * 1000000000 ≤
      3000000000 * Binary64.unitsPerOne := by decide +kernel
  exact Span.exists_ofSeconds (by decide)
    (Nat.le_trans hmin (Nat.mul_le_mul_right _ (Binary64.units_mono hlow)))
    (Nat.le_trans (Nat.mul_le_mul_right _ (Binary64.units_mono hhigh)) hmax)

end VideoWall
