/-!
# The target of a request

A target names a path, maybe with a query: `/path?query`, or in full
`scheme://authority/path?query`.  It may also be an authority alone, or `*`.  What follows a `#` is
no part of it.
-/

namespace VideoWall.Http.Target

/-- Whether a path ends before this character. -/
def endsPath (c : Char) : Bool := c == '?' || c == '#'

/-- Whether an authority ends before this character. -/
def endsAuthority (c : Char) : Bool := c == '/' || endsPath c

/-- The path at the head of a target without scheme and authority. -/
def pathChars (target : List Char) : List Char := target.takeWhile fun c => !endsPath c

/-- What follows the authority, if the target has a scheme. -/
def afterAuthority? (target : List Char) : Option (List Char) :=
  match target.dropWhile (· != ':') with
  | ':' :: '/' :: '/' :: rest => some (rest.dropWhile fun c => !endsAuthority c)
  | _ => none

/-- The path of a target.  In a full target a path that is left out is the root; an authority alone
has no path. -/
def path (target : String) : String :=
  match target.toList with
  | '/' :: rest => String.ofList ('/' :: pathChars rest)
  | ['*'] => "*"
  | chars =>
    match afterAuthority? chars with
    | none => ""
    | some rest =>
      match pathChars rest with
      | [] => "/"
      | path => String.ofList path

end VideoWall.Http.Target
