import VideoWall.Json.Skip

/-!
# Reading JSON as data of a known kind

A decoder reads a value that begins with the first byte, which is no blank.  It checks kind and
range as it goes, so that of two faults in a text the first one is told.

A record is written as an object, whose unknown members are skipped, or as the list of its fields
in order.
-/

namespace VideoWall.Json

abbrev Decoder (α : Type) := Bytes → Read α

/-- A fault inside a part of a value has the step to that part at the head of its path. -/
def within {α : Type} (segment : Segment) : Except Fault α → Except Fault α
  | .error fault => .error { fault with path := segment :: fault.path }
  | .ok a => .ok a

namespace Decoder

/-- The fault of a value that is not of the kind that is wanted.  A scalar is read first, and a
fault in it comes before; it shows after a scalar and before a bracket. -/
def mismatch {α : Type} (wanted : Wanted) : Bytes → Except Fault α
  | [] => atNext .endInValue []
  | b :: bs =>
    if b = 0x6e then
      match word afterN bs with
      | .error fault => .error fault
      | .ok rest => atEnd (.wrongType .null wanted) rest
    else if b = 0x74 then
      match word afterT bs with
      | .error fault => .error fault
      | .ok rest => atEnd (.wrongType (.bool true) wanted) rest
    else if b = 0x66 then
      match word afterF bs with
      | .error fault => .error fault
      | .ok rest => atEnd (.wrongType (.bool false) wanted) rest
    else if b = 0x22 then
      match string bs with
      | .error fault => .error fault
      | .ok (s, rest) => atEnd (.wrongType (.string s) wanted) rest
    else if startsNumber b then
      match number (b :: bs) with
      | .error fault => .error fault
      | .ok (.int i, rest) => atEnd (.wrongType (.int i) wanted) rest
      | .ok (.float x, rest) => atEnd (.wrongType (.float x) wanted) rest
    else if b = 0x5b then atEnd (.wrongType .sequence wanted) (b :: bs)
    else if b = 0x7b then atEnd (.wrongType .map wanted) (b :: bs)
    else atNext .expectedValue (b :: bs)

/-! ## Scalars -/

def boolean : Decoder Bool
  | 0x74 :: bs => (word afterT bs).map (true, ·)
  | 0x66 :: bs => (word afterF bs).map (false, ·)
  | bs => mismatch .boolean bs

def text : Decoder String
  | 0x22 :: bs => string bs
  | bs => mismatch .string bs

/-- A natural number up to `max`. -/
def natural (wanted : Wanted) (max : Nat) : Decoder Nat
  | [] => mismatch wanted []
  | b :: bs =>
    if startsNumber b then
      match number (b :: bs) with
      | .error fault => .error fault
      | .ok (.int i, rest) =>
        if 0 ≤ i ∧ i ≤ max then .ok (i.toNat, rest) else atEnd (.wrongValue i wanted) rest
      | .ok (.float x, rest) => atEnd (.wrongType (.float x) wanted) rest
    else mismatch wanted (b :: bs)

def u16 : Decoder Nat := natural .u16 (twoTo 16 - 1)

def u64 : Decoder Nat := natural .u64 (twoTo 64 - 1)

def size : Decoder Nat := natural .size (twoTo 64 - 1)

/-- Any number; an integer is rounded to a float. -/
def binary64 : Decoder Binary64
  | [] => mismatch .float []
  | b :: bs =>
    if startsNumber b then
      match number (b :: bs) with
      | .error fault => .error fault
      | .ok (.int i, rest) => .ok (Binary64.ofInt i, rest)
      | .ok (.float x, rest) => .ok (x, rest)
    else mismatch .float (b :: bs)

/-- `null` for nothing. -/
def optional {α : Type} (item : Decoder α) : Decoder (Option α)
  | 0x6e :: bs => (word afterN bs).map (none, ·)
  | bs => (item bs).map fun (a, rest) => (some a, rest)

def list {α : Type} (item : Decoder α) : Decoder (List α)
  | 0x5b :: bs => listItems (fun i bs => within (.index i) (item bs)) bs
  | bs => mismatch .sequence bs

end Decoder

/-! ## Records -/

/-- A field of a record that is gathered in a `σ`. -/
structure Field (σ : Type) where
  name : String
  required : Bool
  decode : Decoder (σ → σ)

/-- A field, how it is read and how its value is kept. -/
def field {σ α : Type} (name : String) (item : Decoder α) (set : α → σ → σ) : Field σ where
  name
  required := false
  decode bs := (item bs).map fun (a, rest) => (set a, rest)

/-- The same field, which may not be missing. -/
def Field.require {σ : Type} (f : Field σ) : Field σ := { f with required := true }

/-- A record: its fields in order, and what it is before any field is read.  A list of fields may
be short only if `partialLists`. -/
structure Record (σ : Type) where
  name : String
  blank : σ
  partialLists : Bool
  fields : List (Field σ)

namespace Record

variable {σ : Type}

/-- A member of the object: the value of a field that has not been read yet, or of no field. -/
def member (r : Record σ) (s : σ × List String) (key : String) (bs : Bytes) :
    Read (σ × List String) :=
  match r.fields.find? (·.name == key) with
  | none =>
    match readColon bs with
    | .error fault => .error fault
    | .ok rest => within (.key key) ((skip (skipBlanks rest)).map (s, ·))
  | some f =>
    if s.2.contains key then
      atEnd (.duplicateField key) (match skipBlanks bs with
        | 0x7d :: rest => rest
        | rest => rest)
    else
      match readColon bs with
      | .error fault => .error fault
      | .ok rest =>
        within (.key key)
          ((f.decode (skipBlanks rest)).map fun (set, rest) => ((set s.1, key :: s.2), rest))

/-- The record of the members that were read, if no field is missing. -/
def complete (r : Record σ) (s : σ × List String) (rest : Bytes) : Read σ :=
  match r.fields.find? fun f => f.required && !s.2.contains f.name with
  | none => .ok (s.1, rest)
  | some f => atEnd (.missingField f.name) rest

/-- The end of a list of fields of which `i` were read. -/
def short (r : Record σ) (i : Nat) (s : σ) (rest : Bytes) : Read σ :=
  if r.partialLists then .ok (s, rest)
  else atEnd (.wrongLength i r.name r.fields.length) rest

/-- The end of a list after its last field. -/
def close (s : σ) (bs : Bytes) : Read σ :=
  match skipBlanks bs with
  | [] => atNext .endInList []
  | 0x5d :: rest => .ok (s, rest)
  | 0x2c :: rest =>
    match skipBlanks rest with
    | 0x5d :: rest => atNext .trailingComma (0x5d :: rest)
    | rest => atNext .trailingCharacters rest
  | rest => atNext .trailingCharacters rest

/-- The fields that a list has yet to give, after the first. -/
def moreFields (r : Record σ) : List (Field σ) → Nat → σ → Bytes → Read σ
  | [], _, s, bs => close s bs
  | f :: fields, i, s, bs =>
    match skipBlanks bs with
    | [] => atNext .endInList []
    | 0x5d :: rest => r.short i s rest
    | 0x2c :: rest =>
      match skipBlanks rest with
      | [] => atNext .endInValue []
      | 0x5d :: rest => atNext .trailingComma (0x5d :: rest)
      | rest =>
        match within (.index i) (f.decode rest) with
        | .error fault => .error fault
        | .ok (set, rest) => r.moreFields fields (i + 1) (set s) rest
    | rest => atNext .expectedListEnd rest

/-- The fields of a record after an opening bracket. -/
def listed (r : Record σ) (bs : Bytes) : Read σ :=
  match r.fields, skipBlanks bs with
  | [], rest => close r.blank rest
  | _, [] => atNext .endInList []
  | _, 0x5d :: rest => r.short 0 r.blank rest
  | f :: fields, rest =>
    match within (.index 0) (f.decode rest) with
    | .error fault => .error fault
    | .ok (set, rest) => r.moreFields fields 1 (set r.blank) rest

def decode (r : Record σ) : Decoder σ
  | 0x7b :: bs =>
    match objectMembers r.member (r.blank, []) bs with
    | .error fault => .error fault
    | .ok (s, rest) => r.complete s rest
  | 0x5b :: bs => r.listed bs
  | bs => Decoder.mismatch (.record r.name) bs

end Record

end VideoWall.Json
