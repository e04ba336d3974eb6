import VideoWall.Json.Reader

/-!
# Skipping a JSON value

A value nobody asked for is checked for its form and not kept: brackets may be nested to any depth,
a number may be of any size, and a string may hold bytes that are no text.
-/

namespace VideoWall.Json

/-- What follows a backslash. -/
def skipEscape : Bytes → Except Fault Bytes
  | [] => atEnd .endInString []
  | b :: bs =>
    match shortEscape b with
    | some _ => .ok bs
    | none => if b = 0x75 then (hexQuad bs).map (·.2) else atEnd .badEscape bs

/-- A string after its opening quote. -/
def skipString : Nat → Bytes → Except Fault Bytes
  | 0, _ => atEnd .endInString []
  | _ + 1, [] => atEnd .endInString []
  | fuel + 1, b :: bs =>
    if b = 0x22 then .ok bs
    else if b = 0x5c then
      match skipEscape bs with
      | .error fault => .error fault
      | .ok rest => skipString fuel rest
    else if b < 0x20 then atEnd .controlCharacter (b :: bs)
    else skipString fuel bs

/-- An exponent after its `e`. -/
def skipExponent (bs : Bytes) : Except Fault Bytes :=
  match (match bs with
    | 0x2b :: rest => rest
    | 0x2d :: rest => rest
    | _ => bs) with
  | [] => atEnd .badNumber []
  | b :: rest => if isDigit b then .ok (afterDigits rest) else atEnd .badNumber rest

/-- Digits after a point. -/
def skipFraction (bs : Bytes) : Except Fault Bytes :=
  if (digitsOf bs).isEmpty then atNext .badNumber bs
  else
    match afterDigits bs with
    | 0x65 :: rest => skipExponent rest
    | 0x45 :: rest => skipExponent rest
    | rest => .ok rest

/-- A number after its sign. -/
def skipUnsigned : Bytes → Except Fault Bytes
  | [] => atEnd .badNumber []
  | b :: bs =>
    if !isDigit b then atEnd .badNumber bs
    else if b = 0x30 ∧ !(digitsOf bs).isEmpty then atNext .badNumber bs
    else
      match afterDigits (b :: bs) with
      | 0x2e :: rest => skipFraction rest
      | 0x65 :: rest => skipExponent rest
      | 0x45 :: rest => skipExponent rest
      | rest => .ok rest

def skipNumber : Bytes → Except Fault Bytes
  | 0x2d :: bs => skipUnsigned bs
  | bs => skipUnsigned bs

/-- What follows an item of a list. -/
def skipMoreItems (item : Bytes → Except Fault Bytes) : Nat → Bytes → Except Fault Bytes
  | 0, _ => atEnd .endInList []
  | fuel + 1, bs =>
    match skipBlanks bs with
    | [] => atNext .endInList []
    | 0x5d :: rest => .ok rest
    | 0x2c :: rest =>
      match item (skipBlanks rest) with
      | .error fault => .error fault
      | .ok rest => skipMoreItems item fuel rest
    | rest => atNext .expectedListEnd rest

/-- The items of a list after its opening bracket. -/
def skipItems (item : Bytes → Except Fault Bytes) (bs : Bytes) : Except Fault Bytes :=
  match skipBlanks bs with
  | [] => atNext .endInList []
  | 0x5d :: rest => .ok rest
  | rest =>
    match item rest with
    | .error fault => .error fault
    | .ok rest => skipMoreItems item (rest.length + 1) rest

/-- A key, its colon and its value. -/
def skipMember (item : Bytes → Except Fault Bytes) (bs : Bytes) : Except Fault Bytes :=
  match skipBlanks bs with
  | [] => atNext .endInObject []
  | 0x22 :: rest =>
    match skipString (rest.length + 1) rest with
    | .error fault => .error fault
    | .ok rest =>
      match readColon rest with
      | .error fault => .error fault
      | .ok rest => item (skipBlanks rest)
  | rest => atNext .keyNotString rest

/-- What follows a member of an object. -/
def skipMoreMembers (item : Bytes → Except Fault Bytes) : Nat → Bytes → Except Fault Bytes
  | 0, _ => atEnd .endInObject []
  | fuel + 1, bs =>
    match skipBlanks bs with
    | [] => atNext .endInObject []
    | 0x7d :: rest => .ok rest
    | 0x2c :: rest =>
      match skipMember item rest with
      | .error fault => .error fault
      | .ok rest => skipMoreMembers item fuel rest
    | rest => atNext .expectedObjectEnd rest

/-- The members of an object after its opening bracket. -/
def skipMembers (item : Bytes → Except Fault Bytes) (bs : Bytes) : Except Fault Bytes :=
  match skipBlanks bs with
  | [] => atNext .endInObject []
  | 0x7d :: rest => .ok rest
  | rest =>
    match skipMember item rest with
    | .error fault => .error fault
    | .ok rest => skipMoreMembers item (rest.length + 1) rest

/-- A value that begins with the first byte, with at most `depth` brackets inside each other. -/
def skipValue : Nat → Bytes → Except Fault Bytes
  | _, [] => atNext .endInValue []
  | 0, bs => atNext .tooDeep bs
  | depth + 1, b :: bs =>
    if b = 0x6e then word afterN bs
    else if b = 0x74 then word afterT bs
    else if b = 0x66 then word afterF bs
    else if b = 0x22 then skipString (bs.length + 1) bs
    else if startsNumber b then skipNumber (b :: bs)
    else if b = 0x5b then skipItems (skipValue depth) bs
    else if b = 0x7b then skipMembers (skipValue depth) bs
    else atNext .expectedValue (b :: bs)

/-- A value of any depth: there are fewer brackets in it than bytes. -/
def skip (bs : Bytes) : Except Fault Bytes := skipValue (bs.length + 1) bs

end VideoWall.Json
