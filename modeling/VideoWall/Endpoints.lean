import VideoWall.StreamId
import VideoWall.Text

/-!
# Backend addresses

A backend serves its list of streams at `BASE/streams`, and each stream's picture and metadata at
`BASE/video/SOURCE/CHANNEL` and `BASE/meta/SOURCE/CHANNEL`.  Slashes that end the base count for
nothing.  After the base each of the three begins with another word, so they are never the same.
-/

namespace VideoWall

/-- Where a backend serves one stream. -/
structure Endpoints where
  videoUrl : String
  metaUrl : String
  deriving DecidableEq, Repr, Inhabited

/-- A base address without the slashes that end it. -/
def normalizeBase (base : String) : String :=
  String.ofList (Text.trimEnd (· == '/') base.toList)

/-- Where the list of streams is. -/
def streamsUrl (base : String) : String := normalizeBase base ++ "/streams"

/-- Where the picture and the metadata of a stream are. -/
def compose (base : String) (id : StreamId) : Endpoints where
  videoUrl := normalizeBase base ++ "/video/" ++ id.source ++ "/" ++ id.channel
  metaUrl := normalizeBase base ++ "/meta/" ++ id.source ++ "/" ++ id.channel

/-! ## Lemmas -/

theorem normalizeBase_idem (base : String) :
    normalizeBase (normalizeBase base) = normalizeBase base := by
  simp [normalizeBase, Text.trimEnd_idem]

/-- Bases that differ in their closing slashes name the same resources. -/
theorem compose_normalizeBase (base : String) (id : StreamId) :
    compose (normalizeBase base) id = compose base id := by
  simp [compose, normalizeBase_idem]

theorem metaUrl_ne_streamsUrl (base : String) (id : StreamId) :
    (compose base id).metaUrl ≠ streamsUrl base := by
  intro h
  have hl := congrArg String.toList h
  simp only [compose, streamsUrl, String.toList_append, List.append_assoc,
    List.append_cancel_left_eq] at hl
  simp at hl

theorem metaUrl_ne_videoUrl (base : String) (id other : StreamId) :
    (compose base id).metaUrl ≠ (compose base other).videoUrl := by
  intro h
  have hl := congrArg String.toList h
  simp only [compose, String.toList_append, List.append_assoc, List.append_cancel_left_eq] at hl
  simp at hl

theorem streamsUrl_ne_videoUrl (base : String) (id : StreamId) :
    streamsUrl base ≠ (compose base id).videoUrl := by
  intro h
  have hl := congrArg String.toList h
  simp only [compose, streamsUrl, String.toList_append, List.append_assoc,
    List.append_cancel_left_eq] at hl
  simp at hl

end VideoWall
