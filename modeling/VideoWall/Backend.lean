import VideoWall.Failure
import VideoWall.Json.Decoder
import VideoWall.Span
import VideoWall.StreamId

/-!
# The backend

A backend is what it answers at each address, and after which delay.  A request is settled when it
is sent: `Answer.reply` says what comes of it and when.  Times are whole milliseconds.
-/

namespace VideoWall

/-- How requests to one address are answered: the status after one delay, the body after another.
Either part may fail to arrive, for a reason. -/
structure Answer where
  status : Nat := 200
  body : Json.Bytes := []
  delay : Nat := 0
  bodyDelay : Nat := 0
  failure : Option String := none
  bodyFailure : Option String := none
  deriving Repr, Inhabited

/-- What is served at each address, latest first. -/
structure Backend where
  answers : List (String × Answer) := []
  deriving Repr, Inhabited

/-- What comes of a request, and when. -/
structure Reply where
  due : Nat
  outcome : Except FetchFailure Json.Bytes
  deriving Repr, Inhabited

namespace Backend

def serve (b : Backend) (url : String) (a : Answer) : Backend :=
  ⟨(url, a) :: b.answers.filter (fun e => e.1 != url)⟩

/-- An address at which nothing is served answers that it is not found. -/
def answer (b : Backend) (url : String) : Answer :=
  (b.answers.lookup url).getD { status := 404 }

end Backend

def timedOut (timeout : Span) : FetchFailure :=
  .transport ("timed out after " ++ timeout.seconds.oneDecimal ++ "s")

/-- What comes of a request that is sent at `sent` and given up after `timeout`.  An answer without
delay is never too late. -/
def Answer.reply (a : Answer) (sent : Nat) (timeout : Span) : Reply :=
  let limit := timeout.ceilMillis
  let late : Reply := ⟨sent + limit, .error (timedOut timeout)⟩
  if a.delay ≠ 0 ∧ limit ≤ a.delay then late
  else
    match a.failure with
    | some reason => ⟨sent + a.delay, .error (.transport reason)⟩
    | none =>
      if a.status < 200 ∨ 300 ≤ a.status then ⟨sent + a.delay, .error (.status a.status)⟩
      else if a.bodyDelay ≠ 0 ∧ limit ≤ a.delay + a.bodyDelay then late
      else
        ⟨sent + a.delay + a.bodyDelay,
          match a.bodyFailure with
          | some reason => .error (.transport reason)
          | none => .ok a.body⟩

/-- The body of an answer, read as what it should be. -/
def decodeBody {α : Type} (decode : Json.Bytes → Except Json.Fault α) :
    Except FetchFailure Json.Bytes → Except FetchFailure α
  | .error failure => .error failure
  | .ok body =>
    match decode body with
    | .ok a => .ok a
    | .error fault => .error (.malformed (fault.message body))

/-- Metadata may be any JSON value. -/
def decodeMetadata : Except FetchFailure Json.Bytes → Except FetchFailure Json :=
  decodeBody Json.read

/-- A list of streams is a list of strings. -/
def decodeStreams : Except FetchFailure Json.Bytes → Except FetchFailure (List StreamId) :=
  decodeBody fun body =>
    (Json.readAll (Json.Decoder.list Json.Decoder.text) body).map (·.map StreamId.parse)

end VideoWall
