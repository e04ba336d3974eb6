/-!
# Markup

A page is a list of pieces: fixed markup, element ids, and text from elsewhere, which is escaped.
Escaped text holds no character that opens or closes a tag or an attribute, so that the structure of
a page is in its fixed pieces alone.
-/

namespace VideoWall.Page

/-- What stands for a character in element content and in attribute values. -/
def escapeChar (c : Char) : List Char :=
  if c = '&' then "&amp;".toList
  else if c = '<' then "&lt;".toList
  else if c = '>' then "&gt;".toList
  else if c = '"' then "&quot;".toList
  else if c = '\'' then "&#39;".toList
  else [c]

def escape (s : String) : String := String.ofList (s.toList.flatMap escapeChar)

/-- The text that an escaped text stands for: each entity is replaced in one pass. -/
def unescapeChars : List Char → List Char
  | '&' :: 'a' :: 'm' :: 'p' :: ';' :: cs => '&' :: unescapeChars cs
  | '&' :: 'l' :: 't' :: ';' :: cs => '<' :: unescapeChars cs
  | '&' :: 'g' :: 't' :: ';' :: cs => '>' :: unescapeChars cs
  | '&' :: 'q' :: 'u' :: 'o' :: 't' :: ';' :: cs => '"' :: unescapeChars cs
  | '&' :: '#' :: '3' :: '9' :: ';' :: cs => '\'' :: unescapeChars cs
  | c :: cs => c :: unescapeChars cs
  | [] => []

def unescape (s : String) : String := String.ofList (unescapeChars s.toList)

/-- A piece of a page. -/
inductive Piece where
  /-- Fixed markup, written as it is. -/
  | markup (s : String)
  /-- Text from elsewhere, escaped. -/
  | text (s : String)
  /-- The attribute that names an element. -/
  | ident (name : String)
  deriving DecidableEq, Repr, Inhabited

def Piece.chars : Piece → List Char
  | markup s => s.toList
  | text s => s.toList.flatMap escapeChar
  | ident name => "id=\"".toList ++ (name.toList.flatMap escapeChar ++ ['"'])

/-- A number is text. -/
def Piece.nat (n : Nat) : Piece := .text (toString n)

def render (ps : List Piece) : String := String.ofList (ps.flatMap Piece.chars)

/-- The ids of the elements of a page, in order. -/
def idents (ps : List Piece) : List String :=
  ps.filterMap fun
    | .ident name => some name
    | _ => none

end VideoWall.Page
