import VideoWall.Json.Fault
import VideoWall.Text

/-!
# The parts of a JSON text

Readers of blanks, words, strings and numbers over a list of bytes.  Each returns what it read and
the bytes that are left, or a fault.  A fault shows either at the byte that is wrong or after what
was read: `atNext` and `atEnd`.
-/

namespace VideoWall.Json

abbrev Bytes := List UInt8

/-- What a reader returns. -/
abbrev Read (α : Type) := Except Fault (α × Bytes)

/-- A fault that shows at the first of the bytes left, or at the end of the text. -/
def atNext {α : Type} (cause : Cause) (bs : Bytes) : Except Fault α :=
  .error { cause, left := bs.length - 1 }

/-- A fault that shows before the bytes left. -/
def atEnd {α : Type} (cause : Cause) (bs : Bytes) : Except Fault α :=
  .error { cause, left := bs.length }

/-! ## Blanks and words -/

/-- Blank, tab, line feed or carriage return. -/
def isBlank (b : UInt8) : Bool := b == 0x20 || b == 0x0a || b == 0x09 || b == 0x0d

def skipBlanks (bs : Bytes) : Bytes := bs.dropWhile isBlank

/-- The rest of a word whose first letter told which it is. -/
def word : Bytes → Bytes → Except Fault Bytes
  | [], bs => .ok bs
  | _ :: _, [] => atEnd .endInValue []
  | w :: ws, b :: bs => if b = w then word ws bs else atEnd .expectedWord bs

def afterN : Bytes := "ull".toUTF8.toList
def afterT : Bytes := "rue".toUTF8.toList
def afterF : Bytes := "alse".toUTF8.toList

/-! ## Strings -/

def hexValue (b : UInt8) : Option Nat :=
  if 0x30 ≤ b && b ≤ 0x39 then some (b.toNat - 0x30)
  else if 0x41 ≤ b && b ≤ 0x46 then some (b.toNat - 0x41 + 10)
  else if 0x61 ≤ b && b ≤ 0x66 then some (b.toNat - 0x61 + 10)
  else none

/-- Four hexadecimal digits. -/
def hexQuad : Bytes → Read Nat
  | a :: b :: c :: d :: bs =>
    match hexValue a, hexValue b, hexValue c, hexValue d with
    | some a, some b, some c, some d => .ok (((a * 16 + b) * 16 + c) * 16 + d, bs)
    | _, _, _, _ => atEnd .badEscape bs
  | _ => atEnd .endInString []

/-- The character of a code point that is no surrogate, in UTF-8. -/
def encodeScalar (n : Nat) : Bytes := String.utf8EncodeChar (Char.ofNat n)

/-- What follows the first half of a surrogate pair: an escape for the second half. -/
def secondHalf (high : Nat) : Bytes → Read Bytes
  | [] => atEnd .endInString []
  | 0x5c :: [] => atEnd .endInString []
  | 0x5c :: 0x75 :: bs =>
    match hexQuad bs with
    | .error fault => .error fault
    | .ok (low, rest) =>
      if 0xdc00 ≤ low ∧ low ≤ 0xdfff then
        .ok (encodeScalar (0x10000 + (high - 0xd800) * 0x400 + (low - 0xdc00)), rest)
      else atEnd .loneSurrogate rest
  | 0x5c :: _ :: bs => atEnd .unfinishedSurrogate bs
  | _ :: bs => atEnd .unfinishedSurrogate bs

/-- What `\u` stands for. -/
def unicodeEscape (bs : Bytes) : Read Bytes :=
  match hexQuad bs with
  | .error fault => .error fault
  | .ok (n, rest) =>
    if 0xdc00 ≤ n ∧ n ≤ 0xdfff then atEnd .loneSurrogate rest
    else if 0xd800 ≤ n ∧ n ≤ 0xdbff then secondHalf n rest
    else .ok (encodeScalar n, rest)

/-- The byte that a one-letter escape stands for. -/
def shortEscape (b : UInt8) : Option UInt8 :=
  match b with
  | 0x22 => some 0x22
  | 0x5c => some 0x5c
  | 0x2f => some 0x2f
  | 0x62 => some 0x08
  | 0x66 => some 0x0c
  | 0x6e => some 0x0a
  | 0x72 => some 0x0d
  | 0x74 => some 0x09
  | _ => none

/-- What follows a backslash. -/
def escape : Bytes → Read Bytes
  | [] => atEnd .endInString []
  | b :: bs =>
    match shortEscape b with
    | some c => .ok ([c], bs)
    | none => if b = 0x75 then unicodeEscape bs else atEnd .badEscape bs

/-- The bytes of a string up to its closing quote, which is left; `read` holds those read so far,
last first.  The fuel bounds the number of characters. -/
def stringBytes : Nat → Bytes → Bytes → Read Bytes
  | 0, _, _ => atEnd .endInString []
  | _ + 1, _, [] => atEnd .endInString []
  | fuel + 1, read, b :: bs =>
    if b = 0x22 then .ok (read.reverse, b :: bs)
    else if b = 0x5c then
      match escape bs with
      | .error fault => .error fault
      | .ok (cs, rest) => stringBytes fuel (cs.reverse ++ read) rest
    else if b < 0x20 then atEnd .controlCharacter bs
    else stringBytes fuel (b :: read) bs

/-- A string after its opening quote.  Bytes that are no text show once the string has ended, and as
far before its end as they and what follows them are long with every escape read. -/
def string (bs : Bytes) : Read String :=
  match stringBytes (bs.length + 1) [] bs with
  | .error fault => .error fault
  | .ok (cs, rest) =>
    let rest := rest.drop 1
    match String.fromUTF8? ⟨cs.toArray⟩ with
    | some s => .ok (s, rest)
    | none =>
      .error { cause := .badEncoding, left := rest.length + (cs.length - Text.textLength cs) }

/-! ## Numbers -/

def isDigit (b : UInt8) : Bool := 0x30 ≤ b && b ≤ 0x39

def digitValue (b : UInt8) : Nat := b.toNat - 0x30

def digitsOf (bs : Bytes) : Bytes := bs.takeWhile isDigit

def afterDigits (bs : Bytes) : Bytes := bs.dropWhile isDigit

/-- The largest significand that is gathered digit by digit. -/
def maxSignificand : Nat := twoTo 64 - 1

/-- Appends digits to a significand as long as it stays within 64 bits; the second part is the
number of digits taken. -/
def gather : Nat → Bytes → Nat × Nat
  | s, [] => (s, 0)
  | s, d :: ds =>
    if s * 10 + digitValue d ≤ maxSignificand then
      let (t, taken) := gather (s * 10 + digitValue d) ds
      (t, taken + 1)
    else (s, 0)

/-- The rank of a power of ten. -/
def powerRank (k : Nat) : Nat := Binary64.rankOfRatio (tenTo k) 1

/-- `significand * 10^exponent` by one rounded product or quotient; a scale below `10^-308` is
divided out in two steps, and nothing is left of what is smaller yet. -/
def scaled (significand : Nat) (exponent : Int) : Nat :=
  let s := Binary64.rankOfRatio significand 1
  if 0 ≤ exponent then
    if exponent ≤ 308 then Binary64.rankMul s (powerRank exponent.toNat)
    else if significand = 0 then 0 else Binary64.infinityRank
  else
    let k := (-exponent).toNat
    if k ≤ 308 then Binary64.rankDiv s (powerRank k)
    else if k ≤ 616 then
      Binary64.rankDiv (Binary64.rankDiv s (powerRank 308)) (powerRank (k - 308))
    else 0

/-- A number: an integer of 64 bits or a float. -/
inductive Number where
  | int (i : Int)
  | float (x : Binary64)
  deriving Repr

def finish (negative : Bool) (significand : Nat) (exponent : Int) (rest : Bytes) : Read Number :=
  let rank := scaled significand exponent
  if rank < Binary64.infinityRank then .ok (.float (.number negative rank), rest)
  else atEnd .numberTooLarge rest

/-- The largest exponent that is read. -/
def maxExponent : Nat := twoTo 31 - 1

/-- The value of the digits of an exponent, or what follows the digit that makes it too large. -/
def exponentValue : Nat → Bytes → Except Bytes Nat
  | e, [] => .ok e
  | e, b :: bs =>
    if isDigit b then
      if e * 10 + digitValue b ≤ maxExponent then exponentValue (e * 10 + digitValue b) bs
      else .error bs
    else .ok e

/-- An exponent after its `e`. -/
def exponentPart (negative : Bool) (significand : Nat) (base : Int) (bs : Bytes) : Read Number :=
  let (down, bs) := match bs with
    | 0x2b :: rest => (false, rest)
    | 0x2d :: rest => (true, rest)
    | _ => (false, bs)
  match bs with
  | [] => atEnd .endInValue []
  | b :: rest =>
    if !isDigit b then atEnd .badNumber rest
    else
      match exponentValue 0 bs with
      | .ok e => finish negative significand (if down then base - e else base + e) (afterDigits bs)
      | .error rest =>
        if significand ≠ 0 ∧ !down then atEnd .numberTooLarge rest
        else .ok (.float (.number negative 0), afterDigits bs)

/-- Digits after a point. -/
def fractionPart (negative : Bool) (significand : Nat) (base : Int) (bs : Bytes) : Read Number :=
  if (digitsOf bs).isEmpty then
    atNext (if bs.isEmpty then .endInValue else .badNumber) bs
  else
    let (significand, taken) := gather significand (digitsOf bs)
    match afterDigits bs with
    | 0x65 :: rest => exponentPart negative significand (base - taken) rest
    | 0x45 :: rest => exponentPart negative significand (base - taken) rest
    | rest => finish negative significand (base - taken) rest

/-- A number without point and exponent: an integer if it fits in 64 bits; `-0` does not. -/
def integral (negative : Bool) (significand : Nat) (rest : Bytes) : Read Number :=
  if !negative then .ok (.int significand, rest)
  else if 0 < significand ∧ significand ≤ twoTo 63 then .ok (.int (-significand), rest)
  else .ok (.float (.number true (Binary64.rankOfRatio significand 1)), rest)

/-- A number after its sign. -/
def unsignedNumber (negative : Bool) : Bytes → Read Number
  | [] => atEnd .endInValue []
  | b :: bs =>
    if !isDigit b then atEnd .badNumber bs
    else if b = 0x30 ∧ !(digitsOf bs).isEmpty then atNext .badNumber bs
    else
      let digits := digitsOf (b :: bs)
      let (significand, taken) := gather 0 digits
      let dropped : Int := digits.length - taken
      match afterDigits (b :: bs) with
      | 0x2e :: rest => fractionPart negative significand dropped rest
      | 0x65 :: rest => exponentPart negative significand dropped rest
      | 0x45 :: rest => exponentPart negative significand dropped rest
      | rest =>
        if taken = digits.length then integral negative significand rest
        else finish negative significand dropped rest

/-- Does a number begin with this byte? -/
def startsNumber (b : UInt8) : Bool := b == 0x2d || isDigit b

/-- A number. -/
def number : Bytes → Read Number
  | 0x2d :: bs => unsignedNumber true bs
  | bs => unsignedNumber false bs

end VideoWall.Json
