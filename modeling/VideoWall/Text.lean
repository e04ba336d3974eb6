/-!
# Texts

How many of some bytes are text, and how the ends of a text are cut off.  White space is what has
the Unicode property White_Space.
-/

namespace VideoWall.Text

/-! ## Bytes that are text -/

/-- Where the text that begins at `i` ends: before the first byte that begins no character.  The
fuel bounds the number of characters. -/
def textEnd (bytes : ByteArray) : Nat → Nat → Nat
  | 0, i => i
  | fuel + 1, i =>
    match bytes.utf8DecodeChar? i with
    | some c => textEnd bytes fuel (i + c.utf8Size)
    | none => i

/-- How many of the bytes at the head are text. -/
def textLength (bs : List UInt8) : Nat := textEnd ⟨bs.toArray⟩ bs.length 0

/-! ## The ends of a text -/

/-- `cs` without the characters of `p` that end it. -/
def trimEnd (p : Char → Bool) (cs : List Char) : List Char :=
  (cs.reverse.dropWhile p).reverse

def isWhite (c : Char) : Bool :=
  let n := c.toNat
  (9 ≤ n && n ≤ 13) || n == 0x20 || n == 0x85 || n == 0xa0 || n == 0x1680 ||
    (0x2000 ≤ n && n ≤ 0x200a) || n == 0x2028 || n == 0x2029 || n == 0x202f || n == 0x205f ||
    n == 0x3000

/-- The text without the white space around it. -/
def trim (s : String) : String :=
  String.ofList (trimEnd isWhite (s.toList.dropWhile isWhite))

/-! ## Lemmas -/

theorem trimEnd_idem (p : Char → Bool) (cs : List Char) :
    trimEnd p (trimEnd p cs) = trimEnd p cs := by
  have h : ∀ l : List Char, (l.dropWhile p).dropWhile p = l.dropWhile p := by
    intro l
    induction l with
    | nil => rfl
    | cons c l ih => by_cases hc : p c <;> simp [hc, ih]
  simp [trimEnd, h]

end VideoWall.Text
