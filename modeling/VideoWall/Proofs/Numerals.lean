import VideoWall.Panel

/-!
# How values are written

The text of a number has digits, points, exponents and signs in it and nothing else, and the text of
any other value begins with a quote, a bracket or a small letter.  So no metadata are written like
the notice in a panel that has none.

    a finite number is written in numerals               (isNumeral_of_mem_shortest)
    no value is written like the notice                       (pretty_ne_noMetadata)
-/

namespace VideoWall

namespace Binary64

/-- Whether a character may stand in the text of a number. -/
def isNumeral (c : Char) : Bool := c.isDigit || c == '.' || c == 'e' || c == '+' || c == '-'

theorem isNumeral_of_isDigit {c : Char} (h : c.isDigit = true) : isNumeral c = true := by
  simp [isNumeral, h]

theorem isNumeral_of_mem_toDigits {c : Char} {n : Nat} (h : c ∈ Nat.toDigits 10 n) :
    isNumeral c = true :=
  isNumeral_of_isDigit (Nat.isDigit_of_mem_toDigits (by omega) (by omega) h)

theorem isNumeral_of_mem_significant {c : Char} {digits : Nat} (h : c ∈ significant digits) :
    isNumeral c = true := by
  unfold significant at h
  split at h
  · rw [List.mem_singleton.1 h]
    rfl
  · next cs _ =>
    have hdigits : c ∈ (Nat.toDigits 10 digits).reverse :=
      (List.dropWhile_suffix _).subset (List.mem_reverse.1 h)
    exact isNumeral_of_mem_toDigits (List.mem_reverse.1 hdigits)

section

variable {ds : List Char} (hds : ∀ c ∈ ds, isNumeral c = true) {point : Int} {c : Char}

include hds

theorem isNumeral_of_mem_positional (h : c ∈ positional ds point) : isNumeral c = true := by
  unfold positional at h
  split at h
  · simp only [List.mem_cons, List.mem_append, List.mem_replicate] at h
    rcases h with rfl | rfl | ⟨-, rfl⟩ | h
    · rfl
    · rfl
    · rfl
    · exact hds c h
  split at h
  · simp only [List.mem_cons, List.mem_append] at h
    rcases h with h | rfl | h
    · exact hds c (List.mem_of_mem_take h)
    · rfl
    · exact hds c (List.mem_of_mem_drop h)
  · simp only [List.mem_cons, List.mem_append, List.mem_replicate, List.not_mem_nil, or_false] at h
    rcases h with (h | ⟨-, rfl⟩) | rfl | rfl
    · exact hds c h
    · rfl
    · rfl
    · rfl

theorem isNumeral_of_mem_scientific (h : c ∈ scientific ds point) : isNumeral c = true := by
  unfold scientific at h
  simp only [List.mem_append, List.mem_cons] at h
  rcases h with (h | h) | rfl | rfl | h
  · exact hds c (List.mem_of_mem_take h)
  · split at h
    · cases h
    · rcases List.mem_cons.1 h with rfl | h
      · rfl
      · exact hds c (List.mem_of_mem_drop h)
  · rfl
  · split <;> rfl
  · exact isNumeral_of_mem_toDigits h

end

theorem isNumeral_of_mem_magnitudeText {rank : Nat} {c : Char} (h : c ∈ magnitudeText rank) :
    isNumeral c = true := by
  unfold magnitudeText at h
  split at h
  · simp only [List.mem_cons, List.not_mem_nil, or_false] at h
    rcases h with rfl | rfl | rfl <;> rfl
  · dsimp only at h
    split at h
    · exact isNumeral_of_mem_positional (fun _ hc => isNumeral_of_mem_significant hc) h
    · exact isNumeral_of_mem_scientific (fun _ hc => isNumeral_of_mem_significant hc) h

/-- A finite number is written with digits, a point, an exponent and signs. -/
theorem isNumeral_of_mem_shortest {x : Binary64} (hx : x.isFinite = true) {c : Char}
    (h : c ∈ x.shortest.toList) : isNumeral c = true := by
  cases x with
  | nan => cases hx
  | number negative rank =>
    have hrank : rank < infinityRank := of_decide_eq_true hx
    rw [shortest, if_pos hrank, String.toList_ofList] at h
    cases negative with
    | false => exact isNumeral_of_mem_magnitudeText h
    | true =>
      rcases List.mem_cons.1 h with rfl | h
      · rfl
      · exact isNumeral_of_mem_magnitudeText h

end Binary64

namespace Json

/-- No value begins as the notice does. -/
theorem head?_chars_ne (layout : Option Nat) (j : Json) : (j.chars layout).head? ≠ some 'N' := by
  have hnumber {cs : List Char} (h : ∀ c ∈ cs, Binary64.isNumeral c = true) :
      cs.head? ≠ some 'N' := by
    intro hhead
    have hN := h 'N' (List.mem_of_head? hhead)
    cases hN
  cases j with
  | null => simp [chars]
  | bool b => cases b <;> simp [chars]
  | int i =>
    rw [chars, intChars]
    split
    · simp
    · exact hnumber fun c hc => Binary64.isNumeral_of_mem_toDigits hc
  | float x =>
    rw [chars, floatChars]
    split
    · next hx => exact hnumber fun c hc => Binary64.isNumeral_of_mem_shortest hx hc
    · simp
  | str s => simp [chars, stringChars]
  | arr items => cases items <;> simp [chars]
  | obj members =>
    cases members with
    | nil => simp [chars]
    | cons member members => simp [chars]

theorem pretty_ne_noMetadata (j : Json) : j.pretty ≠ noMetadata := by
  intro h
  have hchars : j.chars (some 0) = noMetadata.toList := by
    rw [← h, pretty, String.toList_ofList]
  refine head?_chars_ne (some 0) j ?_
  rw [hchars]
  rfl

end Json

end VideoWall
