import VideoWall.Json.Value
import VideoWall.Text.Quoted

/-!
# What is wrong with a JSON text

A fault is a cause, the place where it shows and the path to the value being read.  The place is
kept as the number of bytes that are left there, so that a reader needs no count of what it has
read; line and column are worked out from the text when the fault is told.
-/

namespace VideoWall.Json

/-- What a reader wants to see. -/
inductive Wanted where
  | string
  | boolean
  | sequence
  | u16
  | u64
  | size
  | float
  | record (name : String)
  deriving DecidableEq, Repr

/-- What it finds instead. -/
inductive Found where
  | null
  | bool (b : Bool)
  | int (i : Int)
  | float (x : Binary64)
  | string (s : String)
  | sequence
  | map
  deriving Repr

inductive Cause where
  | endInValue
  | endInList
  | endInObject
  | endInString
  | expectedValue
  | expectedWord
  | expectedColon
  | expectedListEnd
  | expectedObjectEnd
  | keyNotString
  | trailingComma
  | trailingCharacters
  | tooDeep
  | badNumber
  | numberTooLarge
  | badEscape
  | controlCharacter
  | loneSurrogate
  | unfinishedSurrogate
  | badEncoding
  | wrongType (found : Found) (wanted : Wanted)
  | wrongValue (value : Int) (wanted : Wanted)
  | wrongLength (length : Nat) (record : String) (fields : Nat)
  | missingField (name : String)
  | duplicateField (name : String)
  deriving Repr

/-- One step from a value to a part of it. -/
inductive Segment where
  | key (name : String)
  | index (i : Nat)
  deriving DecidableEq, Repr

/-- A cause, how many bytes are left after the place where it shows, and the path to the value that
was being read, outermost step first. -/
structure Fault where
  cause : Cause
  left : Nat
  path : List Segment := []
  deriving Repr

/-! ## Wording -/

def Wanted.text : Wanted → String
  | string => "a string"
  | boolean => "a boolean"
  | sequence => "a sequence"
  | u16 => "u16"
  | u64 => "u64"
  | size => "usize"
  | float => "f64"
  | record name => "struct " ++ name

def Found.text : Found → String
  | null => "null"
  | bool b => "boolean `" ++ (if b then "true" else "false") ++ "`"
  | int i => "integer `" ++ String.ofList (intChars i) ++ "`"
  | float x => "floating point `" ++ x.shortest ++ "`"
  | string s => "string " ++ Text.quoted s
  | sequence => "sequence"
  | map => "map"

def Cause.text : Cause → String
  | endInValue => "EOF while parsing a value"
  | endInList => "EOF while parsing a list"
  | endInObject => "EOF while parsing an object"
  | endInString => "EOF while parsing a string"
  | expectedValue => "expected value"
  | expectedWord => "expected ident"
  | expectedColon => "expected `:`"
  | expectedListEnd => "expected `,` or `]`"
  | expectedObjectEnd => "expected `,` or `\x7d`"
  | keyNotString => "key must be a string"
  | trailingComma => "trailing comma"
  | trailingCharacters => "trailing characters"
  | tooDeep => "recursion limit exceeded"
  | badNumber => "invalid number"
  | numberTooLarge => "number out of range"
  | badEscape => "invalid escape"
  | controlCharacter => "control character (\\u0000-\\u001F) found while parsing a string"
  | loneSurrogate => "lone leading surrogate in hex escape"
  | unfinishedSurrogate => "unexpected end of hex escape"
  | badEncoding => "invalid unicode code point"
  | wrongType found wanted => "invalid type: " ++ found.text ++ ", expected " ++ wanted.text
  | wrongValue value wanted =>
    "invalid value: " ++ (Found.int value).text ++ ", expected " ++ wanted.text
  | wrongLength length record fields =>
    "invalid length " ++ toString length ++ ", expected struct " ++ record ++ " with " ++
      toString fields ++ (if fields = 1 then " element" else " elements")
  | missingField name => "missing field `" ++ name ++ "`"
  | duplicateField name => "duplicate field `" ++ name ++ "`"

/-- Whether the text is JSON and only its content is not what is wanted. -/
def Cause.isMismatch : Cause → Bool
  | wrongType .. | wrongValue .. | wrongLength .. | missingField .. | duplicateField .. => true
  | _ => false

/-- Lines are counted from one; the column is the number of bytes after the last line break. -/
def lineColumn (consumed : List UInt8) : Nat × Nat :=
  (1 + consumed.count 10, (consumed.reverse.takeWhile (· != 10)).length)

/-- The fault in words, with its place in the text. -/
def Fault.message (fault : Fault) (text : List UInt8) : String :=
  let (line, column) := lineColumn (text.take (text.length - fault.left))
  fault.cause.text ++ " at line " ++ toString line ++ " column " ++ toString column

/-- Keys are joined by dots; an index stands in brackets right after what it belongs to. -/
def pathText : List Segment → String
  | [] => ""
  | .index i :: rest => "[" ++ toString i ++ "]" ++ pathRest rest
  | .key name :: rest => name ++ pathRest rest
where
  pathRest : List Segment → String
    | [] => ""
    | .index i :: rest => "[" ++ toString i ++ "]" ++ pathRest rest
    | .key name :: rest => "." ++ name ++ pathRest rest

/-- The fault in words after the path to the value, if there is one. -/
def Fault.messageWithPath (fault : Fault) (text : List UInt8) : String :=
  (if fault.path.isEmpty then "" else pathText fault.path ++ ": ") ++ fault.message text

end VideoWall.Json
