import VideoWall.Json.Token

/-!
# Reading JSON values

Lists and objects are read by two loops that take the reader of an item as an argument, so that
one pair of loops serves values of every kind.  `Json.read` reads a whole text as a value; it opens
at most 127 brackets inside each other.  An object keeps its members sorted by key, and the last
value of a repeated key.
-/

namespace VideoWall.Json

/-! ## Lists -/

/-- Items after the first: a comma before each, up to the closing bracket.  `item` is told the
position of the item, and the fuel bounds the number of items. -/
def moreItems {α : Type} (item : Nat → Bytes → Read α) : Nat → Nat → List α → Bytes → Read (List α)
  | 0, _, _, _ => atEnd .endInList []
  | fuel + 1, i, read, bs =>
    match skipBlanks bs with
    | [] => atNext .endInList []
    | 0x5d :: rest => .ok (read.reverse, rest)
    | 0x2c :: rest =>
      match skipBlanks rest with
      | [] => atNext .endInValue []
      | 0x5d :: rest => atNext .trailingComma (0x5d :: rest)
      | rest =>
        match item i rest with
        | .error fault => .error fault
        | .ok (a, rest) => moreItems item fuel (i + 1) (a :: read) rest
    | rest => atNext .expectedListEnd rest

/-- The items of a list after its opening bracket. -/
def listItems {α : Type} (item : Nat → Bytes → Read α) (bs : Bytes) : Read (List α) :=
  match skipBlanks bs with
  | [] => atNext .endInList []
  | 0x5d :: rest => .ok ([], rest)
  | rest =>
    match item 0 rest with
    | .error fault => .error fault
    | .ok (a, rest) => moreItems item (rest.length + 1) 1 [a] rest

/-! ## Objects -/

/-- The colon after a key. -/
def readColon (bs : Bytes) : Except Fault Bytes :=
  match skipBlanks bs with
  | [] => atNext .endInObject []
  | 0x3a :: rest => .ok rest
  | rest => atNext .expectedColon rest

/-- Members after the first.  `member` takes what was gathered so far, the key and the bytes after
it, and reads the colon and the value. -/
def moreMembers {σ : Type} (member : σ → String → Bytes → Read σ) : Nat → σ → Bytes → Read σ
  | 0, _, _ => atEnd .endInObject []
  | fuel + 1, s, bs =>
    match skipBlanks bs with
    | [] => atNext .endInObject []
    | 0x7d :: rest => .ok (s, rest)
    | 0x2c :: rest =>
      match skipBlanks rest with
      | [] => atNext .endInValue []
      | 0x22 :: rest =>
        match string rest with
        | .error fault => .error fault
        | .ok (key, rest) =>
          match member s key rest with
          | .error fault => .error fault
          | .ok (s, rest) => moreMembers member fuel s rest
      | 0x7d :: rest => atNext .trailingComma (0x7d :: rest)
      | rest => atNext .keyNotString rest
    | rest => atNext .expectedObjectEnd rest

/-- The members of an object after its opening bracket. -/
def objectMembers {σ : Type} (member : σ → String → Bytes → Read σ) (s : σ) (bs : Bytes) :
    Read σ :=
  match skipBlanks bs with
  | [] => atNext .endInObject []
  | 0x7d :: rest => .ok (s, rest)
  | 0x22 :: rest =>
    match string rest with
    | .error fault => .error fault
    | .ok (key, rest) =>
      match member s key rest with
      | .error fault => .error fault
      | .ok (s, rest) => moreMembers member (rest.length + 1) s rest
  | rest => atNext .keyNotString rest

/-! ## Values -/

/-- Sets a member of a sorted list of members. -/
def setMember (key : String) (value : Json) : List (String × Json) → List (String × Json)
  | [] => [(key, value)]
  | (k, v) :: members =>
    if key < k then (key, value) :: (k, v) :: members
    else if key = k then (key, value) :: members
    else (k, v) :: setMember key value members

def Number.toJson : Number → Json
  | .int i => .int i
  | .float x => .float x

/-- A value that begins with the first byte, which is no blank.  At most `depth` brackets are
opened inside each other. -/
def value : Nat → Bytes → Read Json
  | _, [] => atNext .endInValue []
  | depth, b :: bs =>
    if b = 0x6e then (word afterN bs).map (.null, ·)
    else if b = 0x74 then (word afterT bs).map (.bool true, ·)
    else if b = 0x66 then (word afterF bs).map (.bool false, ·)
    else if b = 0x22 then (string bs).map fun (s, rest) => (.str s, rest)
    else if startsNumber b then (number (b :: bs)).map fun (n, rest) => (n.toJson, rest)
    else if b = 0x5b then
      match depth with
      | 0 => atNext .tooDeep (b :: bs)
      | depth + 1 =>
        (listItems (fun _ bs => value depth bs) bs).map fun (items, rest) => (.arr items, rest)
    else if b = 0x7b then
      match depth with
      | 0 => atNext .tooDeep (b :: bs)
      | depth + 1 =>
        (objectMembers (fun members key bs =>
          match readColon bs with
          | .error fault => .error fault
          | .ok rest =>
            (value depth (skipBlanks rest)).map fun (v, rest) => (setMember key v members, rest))
          [] bs).map fun (members, rest) => (.obj members, rest)
    else atNext .expectedValue (b :: bs)

/-- How many brackets may be open at once. -/
def maxDepth : Nat := 127

/-- What `item` reads at the head of a text, whatever follows. -/
def readHead {α : Type} (item : Bytes → Read α) (text : Bytes) : Except Fault α :=
  (item (skipBlanks text)).map (·.1)

/-- What `item` reads from a text that holds nothing else but blanks. -/
def readAll {α : Type} (item : Bytes → Read α) (text : Bytes) : Except Fault α :=
  match item (skipBlanks text) with
  | .error fault => .error fault
  | .ok (a, rest) =>
    match skipBlanks rest with
    | [] => .ok a
    | rest => atNext .trailingCharacters rest

/-- The value that a text spells. -/
def read (text : Bytes) : Except Fault Json := readAll (value maxDepth) text

end VideoWall.Json
