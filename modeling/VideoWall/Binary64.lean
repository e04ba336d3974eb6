/-!
# Binary floating point with 64 bits

The finite magnitudes are numbered in increasing order: the number of a magnitude, its *rank*, is
the integer its 63 low bits spell.  Rank `r` with exponent field `e = r / 2^52` and fraction
`f = r % 2^52` stands for `f` smallest subnormals if `e = 0` and for `(2^52 + f) * 2^(e-1)` of them
otherwise.  All values are thus whole multiples of `2^-1074`, and rounding a quotient of natural
numbers to the nearest of them is arithmetic on natural numbers.
-/

namespace VideoWall

/-! ## Powers -/

/-- Two to the power of `k`. -/
def twoTo (k : Nat) : Nat := Nat.pow 2 k

/-- Ten to the power of `k`. -/
def tenTo (k : Nat) : Nat := Nat.pow 10 k

theorem twoTo_succ (k : Nat) : twoTo (k + 1) = twoTo k * 2 := rfl

theorem twoTo_pos (k : Nat) : 0 < twoTo k := Nat.pow_pos (by decide)

theorem tenTo_pos (k : Nat) : 0 < tenTo k := Nat.pow_pos (by decide)

/-! ## Rounding and ranks -/

/-- `n / d` to the nearest integer; a tie goes to the even neighbour. -/
def roundHalfEven (n d : Nat) : Nat :=
  let q := n / d
  let r := n % d
  if 2 * r < d then q
  else if d < 2 * r then q + 1
  else q + q % 2

/-- A 64-bit float: not a number, or a sign and the rank of a magnitude. -/
inductive Binary64 where
  | nan
  | number (negative : Bool) (rank : Nat)
  deriving DecidableEq, Repr, Inhabited

namespace Binary64

/-- The rank of infinity; smaller ranks are finite. -/
def infinityRank : Nat := 0x7ff * twoTo 52

/-- How many smallest subnormals make one. -/
def unitsPerOne : Nat := twoTo 1074

/-- The magnitude of a rank, in smallest subnormals. -/
def units (rank : Nat) : Nat :=
  let e := rank / twoTo 52
  if e = 0 then rank else (twoTo 52 + rank % twoTo 52) * twoTo (e - 1)

/-- The rank nearest to `n / d`; a tie goes to the even rank, and what is too large is infinite. -/
def rankOfRatio (n d : Nat) : Nat :=
  let k := Nat.log2 (n * unitsPerOne / d) - 52
  min infinityRank (k * twoTo 52 + roundHalfEven (n * unitsPerOne) (d * twoTo k))

def ofNat (n : Nat) : Binary64 := number false (rankOfRatio n 1)

def ofInt (i : Int) : Binary64 := number (i < 0) (rankOfRatio i.natAbs 1)

/-- The float nearest to `n / d`. -/
def ofRatio (n d : Nat) : Binary64 := number false (rankOfRatio n d)

def infinity (negative : Bool) : Binary64 := number negative infinityRank

def isFinite : Binary64 → Bool
  | nan => false
  | number _ rank => rank < infinityRank

/-! ## Arithmetic on ranks, rounded once -/

def rankMul (a b : Nat) : Nat := rankOfRatio (units a * units b) (unitsPerOne * unitsPerOne)

def rankDiv (a b : Nat) : Nat := rankOfRatio (units a) (units b)

def rankAdd (a b : Nat) : Nat := rankOfRatio (units a + units b) unitsPerOne

/-! ## Order -/

/-- Numbers compare as their keys do; both zeros have the key `0`. -/
def key : Binary64 → Option Int
  | nan => none
  | number negative rank => some (if negative then -(rank : Int) else rank)

/-- `a < b`; false if either is not a number. -/
def lt (a b : Binary64) : Bool :=
  match a.key, b.key with
  | some x, some y => x < y
  | _, _ => false

/-- `x` pulled into `lo ..= hi`; what is not a number stays so. -/
def clamp (x lo hi : Binary64) : Binary64 :=
  if x.lt lo then lo else if hi.lt x then hi else x

/-! ## Lemmas -/

theorem roundHalfEven_mul (q d : Nat) (h : 0 < d) : roundHalfEven (q * d) d = q := by
  simp [roundHalfEven, Nat.mul_div_cancel _ h, h]

/-- Half a unit is the most that rounding moves a quotient, upwards … -/
theorem two_mul_roundHalfEven_mul_le (n d : Nat) :
    2 * (roundHalfEven n d * d) ≤ 2 * n + d := by
  have h := Nat.div_add_mod n d
  have hm : d * (n / d) = n / d * d := Nat.mul_comm ..
  unfold roundHalfEven
  dsimp only
  split
  · omega
  · split
    · rw [Nat.add_mul]; omega
    · rcases Nat.mod_two_eq_zero_or_one (n / d) with e | e <;> rw [e, Nat.add_mul] <;> omega

/-- … and downwards. -/
theorem two_mul_le_roundHalfEven_mul (n d : Nat) (hd : 0 < d) :
    2 * n ≤ 2 * (roundHalfEven n d * d) + d := by
  have h := Nat.div_add_mod n d
  have hm : d * (n / d) = n / d * d := Nat.mul_comm ..
  have hlt := Nat.mod_lt n hd
  unfold roundHalfEven
  dsimp only
  split
  · omega
  · split
    · rw [Nat.add_mul]; omega
    · rcases Nat.mod_two_eq_zero_or_one (n / d) with e | e <;> rw [e, Nat.add_mul] <;> omega

/-- Up to `2^53` the rank is the number of smallest subnormals itself. -/
theorem units_of_lt {rank : Nat} (h : rank < twoTo 53) : units rank = rank := by
  have e : twoTo 53 = twoTo 52 * 2 := twoTo_succ 52
  have hm := Nat.div_add_mod rank (twoTo 52)
  have h2 : rank / twoTo 52 < 2 :=
    (Nat.div_lt_iff_lt_mul (twoTo_pos 52)).2 (by rw [Nat.mul_comm, ← e]; exact h)
  unfold units
  dsimp only
  split
  · rfl
  · next h0 =>
    have h1 : rank / twoTo 52 = 1 := by
      generalize rank / twoTo 52 = q at *
      omega
    rw [h1, Nat.mul_one] at hm
    rw [h1, show twoTo (1 - 1) = 1 from rfl, Nat.mul_one, hm]

end Binary64

end VideoWall
