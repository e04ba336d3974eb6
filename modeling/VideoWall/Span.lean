import VideoWall.Binary64.Decimal

/-!
# Spans of time

Whole nanoseconds.  A span given in seconds as a float is rounded to the nearest nanosecond, a tie
to even; a timer counts whole milliseconds and fires at the first one that is not too early.
-/

namespace VideoWall

structure Span where
  nanoseconds : Nat
  deriving DecidableEq, Repr, Inhabited

namespace Span

def ofMillis (ms : Nat) : Span := ⟨ms * 1000000⟩

/-- The longest span: 64 bits of whole seconds, and the nanoseconds after them. -/
def longest : Nat := twoTo 64 * 1000000000 - 1

/-- The span nearest to a number of seconds; `none` if that is negative, too long or not a number.
Zero is not negative, whatever its sign. -/
def ofSeconds? : Binary64 → Option Span
  | .nan => none
  | .number negative rank =>
    let ns := roundHalfEven (Binary64.units rank * 1000000000) Binary64.unitsPerOne
    if (negative && rank != 0) || longest < ns then none else some ⟨ns⟩

/-- The first whole millisecond at which a timer of this span has run out. -/
def ceilMillis (s : Span) : Nat := (s.nanoseconds + 999999) / 1000000

/-- Whole seconds and the fraction, each rounded, and their rounded sum. -/
def seconds (s : Span) : Binary64 :=
  .number false (Binary64.rankAdd (Binary64.rankOfRatio (s.nanoseconds / 1000000000) 1)
    (Binary64.rankOfRatio (s.nanoseconds % 1000000000) 1000000000))

theorem ceilMillis_ofMillis (ms : Nat) : (ofMillis ms).ceilMillis = ms := by
  simp only [ceilMillis, ofMillis]
  omega

end Span

end VideoWall
