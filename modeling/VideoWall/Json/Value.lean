import VideoWall.Binary64.Decimal

/-!
# JSON values and their text

Numbers are of two kinds, integers and floats, and keep their kind.  An object is the list of its
members in the order in which they are written.  One printer serves both layouts: all on one line,
or indented by two blanks a level with each item on a line of its own.
-/

namespace VideoWall

inductive Json where
  | null
  | bool (b : Bool)
  | int (i : Int)
  | float (x : Binary64)
  | str (s : String)
  | arr (items : List Json)
  | obj (members : List (String × Json))
  deriving Repr, Inhabited

namespace Json

/-- A member that is `null` when there is no value. -/
def ofOption {α : Type} (f : α → Json) : Option α → Json
  | none => .null
  | some a => f a

def nat (n : Nat) : Json := .int n

/-! ## Text -/

/-- Quotes, backslashes and control characters are escaped, everything else stands for itself. -/
def escapeChar (c : Char) : List Char :=
  if c = '"' then ['\\', '"']
  else if c = '\\' then ['\\', '\\']
  else if c = '\n' then ['\\', 'n']
  else if c = '\r' then ['\\', 'r']
  else if c = '\t' then ['\\', 't']
  else if c = '\x08' then ['\\', 'b']
  else if c = '\x0c' then ['\\', 'f']
  else if c.toNat < 0x20 then
    ['\\', 'u', '0', '0', Nat.digitChar (c.toNat / 16), Nat.digitChar (c.toNat % 16)]
  else [c]

def stringChars (s : String) : List Char := '"' :: (s.toList.flatMap escapeChar ++ ['"'])

def intChars (i : Int) : List Char :=
  if i < 0 then '-' :: Nat.toDigits 10 i.natAbs else Nat.toDigits 10 i.natAbs

/-- The shortest text; what is not a finite number has none and is `null`. -/
def floatChars (x : Binary64) : List Char :=
  if x.isFinite then x.shortest.toList else "null".toList

/-- What stands between two items: nothing on one line, else a new line and its indent. -/
def lineBreak : Option Nat → List Char
  | none => []
  | some depth => '\n' :: List.replicate (2 * depth) ' '

/-- What stands between a key and its value. -/
def colon : Option Nat → List Char
  | none => [':']
  | some _ => [':', ' ']

def deeper (layout : Option Nat) : Option Nat := layout.map (· + 1)

mutual

/-- The text of a value, on one line or, with `some depth`, indented from that depth. -/
def chars (layout : Option Nat) : Json → List Char
  | null => "null".toList
  | bool b => (if b then "true" else "false").toList
  | int i => intChars i
  | float x => floatChars x
  | str s => stringChars s
  | arr [] => ['[', ']']
  | arr (item :: items) =>
    '[' :: (lineBreak (deeper layout) ++ (chars (deeper layout) item ++
      (itemChars (deeper layout) items ++ (lineBreak layout ++ [']']))))
  | obj [] => ['\x7b', '\x7d']
  | obj ((key, value) :: members) =>
    '\x7b' :: (lineBreak (deeper layout) ++ (stringChars key ++ (colon layout ++
      (chars (deeper layout) value ++
        (memberChars (deeper layout) members ++ (lineBreak layout ++ ['\x7d']))))))

/-- Further items of an array, each after a comma. -/
def itemChars (layout : Option Nat) : List Json → List Char
  | [] => []
  | item :: items => ',' :: (lineBreak layout ++ (chars layout item ++ itemChars layout items))

/-- Further members of an object, each after a comma. -/
def memberChars (layout : Option Nat) : List (String × Json) → List Char
  | [] => []
  | (key, value) :: members =>
    ',' :: (lineBreak layout ++ (stringChars key ++ (colon layout ++
      (chars layout value ++ memberChars layout members))))

end

/-- The text on one line. -/
def compact (j : Json) : String := String.ofList (j.chars none)

/-- The text over several lines. -/
def pretty (j : Json) : String := String.ofList (j.chars (some 0))

end Json

end VideoWall
