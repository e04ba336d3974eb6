/-!
# Stream ids

A backend names a stream by its source and, after the first slash, its channel; a name without a
slash is on the channel `main`.  Two ids are the same stream when source and channel agree, however
they are spelled: `cam1` and `cam1/main` are one stream, and the spelling is kept for display.

    a == b ↔ a.source = b.source ∧ a.channel = b.channel      (StreamId.beq_iff)
-/

namespace VideoWall

/-- The channel of an id that carries no slash. -/
def defaultChannel : String := "main"

/-- One stream of a backend, as somebody spelled it. -/
structure StreamId where
  raw : String
  deriving Repr, Inhabited

namespace StreamId

/-- Every text is an id; the empty text is the source `""` on the default channel. -/
def parse (raw : String) : StreamId := ⟨raw⟩

/-- The text before the first slash. -/
def source (id : StreamId) : String :=
  String.ofList (id.raw.toList.takeWhile (· != '/'))

/-- The text after the first slash, or the default channel. -/
def channel (id : StreamId) : String :=
  match id.raw.toList.dropWhile (· != '/') with
  | [] => defaultChannel
  | _ :: rest => String.ofList rest

/-- `source/channel`, with the default channel filled in. -/
def canonical (id : StreamId) : String := id.source ++ "/" ++ id.channel

/-- Ids are compared by source and channel alone. -/
instance : BEq StreamId where
  beq a b := a.source == b.source && a.channel == b.channel

/-- Of what belongs to streams, the first for each stream, in order. -/
def distinctBy {α : Type} (stream : α → StreamId) : List α → List α
  | [] => []
  | a :: as => a :: (distinctBy stream as).filter (fun b => !(stream b == stream a))

/-- The different streams of a list, each where and as it is first spelled. -/
def distinct (ids : List StreamId) : List StreamId := distinctBy id ids

/-! ## Lemmas -/

theorem beq_iff {a b : StreamId} :
    (a == b) = true ↔ a.source = b.source ∧ a.channel = b.channel := by
  simp [BEq.beq]

instance : EquivBEq StreamId where
  rfl := by intro a; exact beq_iff.2 ⟨rfl, rfl⟩
  symm := by intro a b h; have h := beq_iff.1 h; exact beq_iff.2 ⟨h.1.symm, h.2.symm⟩
  trans := by
    intro a b c h k
    have h := beq_iff.1 h
    have k := beq_iff.1 k
    exact beq_iff.2 ⟨h.1.trans k.1, h.2.trans k.2⟩

end StreamId

end VideoWall
