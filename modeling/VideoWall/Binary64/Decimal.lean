import VideoWall.Binary64

/-!
# Decimal text of a float

Two texts are written.  `shortest` has the fewest digits that read back as the same float, and of
those the nearest; it is positional from `1e-5` up to below `1e16`, always with a point, and has an
exponent with its sign elsewhere.  `oneDecimal` rounds the exact value to tenths, a tie to even.
-/

namespace VideoWall

/-- `digits * 10^exponent`. -/
structure Decimal where
  digits : Nat
  exponent : Int
  deriving DecidableEq, Repr

namespace Binary64

/-! ## The fewest digits -/

/-- The rounding interval of a rank and the magnitude itself, in half units: every magnitude
strictly between the ends rounds to the rank, and the ends do if the rank is even. -/
structure Interval where
  low : Nat
  middle : Nat
  high : Nat
  closed : Bool

def interval (rank : Nat) : Interval where
  low := units (rank - 1) + units rank
  middle := 2 * units rank
  high := units rank + units (rank + 1)
  closed := rank % 2 = 0

/-- A point `c * 10^p` in half units, times `10^(-p)` if `p` is negative; the second part is the
scale to compare it on. -/
def onGrid (c : Nat) (p : Int) : Nat × Nat :=
  (c * tenTo p.toNat * (2 * unitsPerOne), tenTo (-p).toNat)

def Interval.admits (i : Interval) (c : Nat) (p : Int) : Bool :=
  let (x, scale) := onGrid c p
  if i.closed then i.low * scale ≤ x && x ≤ i.high * scale
  else i.low * scale < x && x < i.high * scale

/-- The number of digits before the point of a positive magnitude; negative if zeros follow it. -/
def pointOf (rank : Nat) : Int :=
  ((Nat.toDigits 10 (units rank * tenTo 400 / unitsPerOne)).length : Int) - 400

/-- The admissible one of the two neighbours on the grid `10^p`; of two, the nearer, and of two as
near the even one. -/
def onGrid? (rank : Nat) (p : Int) : Option Decimal :=
  let i := interval rank
  let (_, scale) := onGrid 0 p
  let c := units rank * scale / (tenTo p.toNat * unitsPerOne)
  let below := i.middle * scale - (onGrid c p).1
  let above := (onGrid (c + 1) p).1 - i.middle * scale
  match i.admits c p, i.admits (c + 1) p with
  | true, true => some ⟨if below < above || (below == above && c % 2 == 0) then c else c + 1, p⟩
  | true, false => some ⟨c, p⟩
  | false, true => some ⟨c + 1, p⟩
  | false, false => none

/-- The fewest digits whose value rounds to the rank; seventeen always do. -/
def shortestDecimal (rank : Nat) : Decimal :=
  let point := pointOf rank
  ((List.range 17).findSome? fun (n : Nat) => onGrid? rank (point - (n + 1))).getD ⟨0, 0⟩

/-! ## Layout -/

/-- The digits without the zeros that end them; at least one remains. -/
def significant (digits : Nat) : List Char :=
  match ((Nat.toDigits 10 digits).reverse.dropWhile (· == '0')).reverse with
  | [] => ['0']
  | cs => cs

/-- `0.ds * 10^point` without an exponent. -/
def positional (ds : List Char) (point : Int) : List Char :=
  if point ≤ 0 then '0' :: '.' :: (List.replicate (-point).toNat '0' ++ ds)
  else if point < ds.length then ds.take point.toNat ++ '.' :: ds.drop point.toNat
  else ds ++ List.replicate (point.toNat - ds.length) '0' ++ ['.', '0']

/-- `0.ds * 10^point` with one digit before the point and an exponent. -/
def scientific (ds : List Char) (point : Int) : List Char :=
  let e := point - 1
  ds.take 1 ++ (if ds.length ≤ 1 then [] else '.' :: ds.drop 1) ++
    'e' :: (if e < 0 then '-' else '+') :: Nat.toDigits 10 e.natAbs

def magnitudeText (rank : Nat) : List Char :=
  if rank = 0 then ['0', '.', '0']
  else
    let d := shortestDecimal rank
    let point := (Nat.toDigits 10 d.digits).length + d.exponent
    let ds := significant d.digits
    if -5 < point && point ≤ 16 then positional ds point else scientific ds point

def signed (negative : Bool) (cs : List Char) : List Char := if negative then '-' :: cs else cs

/-- The shortest text that reads back. -/
def shortest : Binary64 → String
  | nan => "NaN"
  | number negative rank =>
    String.ofList (signed negative
      (if rank < infinityRank then magnitudeText rank else "inf".toList))

/-- Tenths as a decimal number with one digit after the point. -/
def tenthsText (tenths : Nat) : List Char :=
  Nat.toDigits 10 (tenths / 10) ++ '.' :: Nat.toDigits 10 (tenths % 10)

/-- One digit after the point, from the exact value; a tie goes to the even digit. -/
def oneDecimal : Binary64 → String
  | nan => "NaN"
  | number negative rank =>
    String.ofList (signed negative
      (if rank < infinityRank then tenthsText (roundHalfEven (units rank * 10) unitsPerOne)
       else "inf".toList))

end Binary64

end VideoWall
