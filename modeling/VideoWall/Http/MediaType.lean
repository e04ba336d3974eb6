/-!
# Media types

A media type is `type/subtype`, its subtype perhaps with a suffix after a plus sign, and parameters
after semicolons.  Case does not matter.
-/

namespace VideoWall.Http

/-- May the character stand in a name of a media type? -/
def isTokenChar (c : Char) : Bool := c.isAlphanum || "!#$%&'*+-.^_\x60|~".toList.contains c

/-- May the character stand in a quoted value? -/
def isQuotable (c : Char) : Bool := 0x1f < c.toNat && c.toNat < 0x7f

/-- What follows the name of a parameter and the equals sign. -/
inductive ValueState where
  | start
  | plain
  | quoted (empty : Bool)
  | closed

/-- Is this the rest of a list of parameters?  A name is `none` between parameters and tells
otherwise whether it has a character yet. -/
def areParameters : Option Bool → ValueState → List Char → Bool
  | none, _, [] => true
  | none, state, ' ' :: cs => areParameters none state cs
  | none, state, c :: cs => isTokenChar c && areParameters (some true) state cs
  | some false, .start, c :: cs =>
    if c == '"' then areParameters (some false) (.quoted true) cs
    else isTokenChar c && areParameters (some false) .plain cs
  | some false, .start, [] => true
  | some false, .plain, c :: cs =>
    if c == ';' then areParameters none .start cs
    else isTokenChar c && areParameters (some false) .plain cs
  | some false, .plain, [] => true
  | some false, .quoted empty, c :: cs =>
    if c == '"' && !empty then areParameters (some false) .closed cs
    else isQuotable c && areParameters (some false) (.quoted false) cs
  | some false, .quoted _, [] => false
  | some false, .closed, c :: cs =>
    if c == ';' then areParameters none .start cs
    else c == ' ' && areParameters (some false) .closed cs
  | some false, .closed, [] => true
  | some true, state, c :: cs =>
    if c == '=' then areParameters (some false) .start cs
    else isTokenChar c && areParameters (some true) state cs
  | some true, _, [] => false

structure MediaType where
  type : List Char
  subtype : List Char
  suffix : Option (List Char)
  deriving DecidableEq, Repr

/-- The subtype up to its last plus sign, and what follows it; a plus sign at its head is a part of
it. -/
def splitSuffix (cs : List Char) : List Char × Option (List Char) :=
  match (cs.drop 1).reverse.span (· != '+') with
  | (_, []) => (cs, none)
  | (after, _ :: before) => (cs.take 1 ++ before.reverse, some after.reverse)

def MediaType.parse (s : String) : Option MediaType :=
  let cs := s.toList.map Char.toLower
  let type := cs.takeWhile isTokenChar
  match cs.dropWhile isTokenChar with
  | '/' :: rest =>
    let subtype := rest.takeWhile isTokenChar
    let (main, suffix) := splitSuffix subtype
    match rest.dropWhile isTokenChar with
    | [] => if type.isEmpty then none else some ⟨type, main, suffix⟩
    | ';' :: parameters =>
      if type.isEmpty || subtype.isEmpty || !areParameters none .start parameters then none
      else some ⟨type, main, suffix⟩
    | _ => none
  | _ => none

/-- Does the media type say that a body is JSON? -/
def MediaType.isJson (m : MediaType) : Bool :=
  m.type == "application".toList &&
    (m.subtype == "json".toList || m.suffix == some "json".toList)

end VideoWall.Http
