import VideoWall.Instant
import VideoWall.StreamId

/-!
# What is known of the streams

The cache keeps the last good metadata of each stream and the board the outcome of its latest
fetch.  Both are maps from streams, so spellings of one id share an entry.  A write names a
condition that is checked when it is made: if the condition no longer holds nothing is written.

    (m.insert id a).get? other = if id == other then some a else m.get? other   (get?_insert)
-/

namespace VideoWall

/-- A finite map from streams. -/
structure StreamMap (α : Type) where
  entries : List (StreamId × α)
  deriving Repr, Inhabited

namespace StreamMap

variable {α : Type}

def empty : StreamMap α := ⟨[]⟩

def get? (m : StreamMap α) (id : StreamId) : Option α :=
  (m.entries.find? (·.1 == id)).map (·.2)

/-- The map with one entry for the stream, whatever it had before. -/
def insert (m : StreamMap α) (id : StreamId) (a : α) : StreamMap α :=
  ⟨(id, a) :: m.entries.filter (fun e => !(e.1 == id))⟩

theorem get?_insert (m : StreamMap α) (id other : StreamId) (a : α) :
    (m.insert id a).get? other = if id == other then some a else m.get? other := by
  unfold get? insert
  simp only [List.find?_cons]
  by_cases h : id == other
  · simp [h]
  · simp only [Bool.not_eq_true] at h
    simp only [h, Bool.false_eq_true, if_false]
    congr 1
    induction m.entries with
    | nil => rfl
    | cons e l ih =>
      by_cases he : e.1 == id
      · have hne : (e.1 == other) = false := by
          cases hc : e.1 == other with
          | false => rfl
          | true => rw [← h]; exact (BEq.trans (BEq.symm he) hc).symm
        simp [he, hne, ih]
      · simp only [Bool.not_eq_true] at he
        by_cases ho : e.1 == other <;> simp [he, ho, ih]

end StreamMap

/-- The last good metadata of a stream. -/
structure MetadataRecord where
  stream : StreamId
  payload : Json
  fetchedAt : Instant
  deriving Repr, Inhabited

/-- The outcome of the latest fetch of a stream. -/
inductive FetchStatus where
  | ok (time : Instant)
  | failed (time : Instant) (message : String)
  deriving DecidableEq, Repr, Inhabited

abbrev Cache := StreamMap MetadataRecord

abbrev Board := StreamMap FetchStatus

/-- Keeps a record if the condition holds; tells whether it did. -/
def Cache.putIf (cache : Cache) (record : MetadataRecord) (current : Bool) : Cache × Bool :=
  if current then (cache.insert record.stream record, true) else (cache, false)

/-- Keeps an outcome if the condition holds; tells whether it did. -/
def Board.recordIf (board : Board) (id : StreamId) (status : FetchStatus) (current : Bool) :
    Board × Bool :=
  if current then (board.insert id status, true) else (board, false)

/-- The cache and the board of one dashboard. -/
structure Stores where
  cache : Cache := .empty
  board : Board := .empty
  deriving Repr, Inhabited

end VideoWall
