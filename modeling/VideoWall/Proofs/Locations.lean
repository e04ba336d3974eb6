import Mathlib.Tactic.TFAE
import VideoWall.Proofs.Bases
import VideoWall.Proofs.Spellings

/-!
# Streams and their addresses

Polling goes by streams and requests go by addresses.  They tell the same things apart: after the
base an address spells its stream out in full, and no two streams are spelled out alike, since a
source has no slash in it.

    ids are the same stream if they are spelled out alike                (canonical_inj_iff)
    streams have one address if they are spelled out alike   (metaUrl_inj_iff, videoUrl_inj_iff)
    addresses and streams tell the same things apart                (stream_of_address_tfae)
-/

namespace VideoWall

/-! ## Streams spelled out -/

namespace StreamId

theorem canonical_inj_iff {a b : StreamId} : a.canonical = b.canonical ↔ (a == b) = true := by
  rw [← full_inj_iff, full, full, parse, parse, mk.injEq]

theorem parse_canonical_beq (id : StreamId) : (parse id.canonical == id) = true := by
  have hfull : (id.full == id) = true := by
    rw [full_beq]
    exact BEq.rfl
  rwa [full] at hfull

end StreamId

theorem metaUrl_compose (base : String) (id : StreamId) :
    (compose base id).metaUrl = normalizeBase base ++ ("/meta/" ++ id.canonical) := by
  simp only [compose, StreamId.canonical, String.append_assoc]

theorem videoUrl_compose (base : String) (id : StreamId) :
    (compose base id).videoUrl = normalizeBase base ++ ("/video/" ++ id.canonical) := by
  simp only [compose, StreamId.canonical, String.append_assoc]

theorem metaUrl_inj_iff (base : String) {a b : StreamId} :
    (compose base a).metaUrl = (compose base b).metaUrl ↔ a.canonical = b.canonical := by
  rw [metaUrl_compose, metaUrl_compose, String.append_right_inj, String.append_right_inj]

theorem videoUrl_inj_iff (base : String) {a b : StreamId} :
    (compose base a).videoUrl = (compose base b).videoUrl ↔ a.canonical = b.canonical := by
  rw [videoUrl_compose, videoUrl_compose, String.append_right_inj, String.append_right_inj]

/-- Slashes at the end of a base count for nothing, be there none or many.  Two texts have the same
address of metadata, or of the picture, just if they name the same stream, that is if source, slash
and channel come to the same text; and that text names the stream too.  No metadata are at the
address of a picture or of the list of streams. -/
theorem stream_of_address_tfae (base : String) (k : Nat) (x y : String) :
    compose (base ++ String.ofList (List.replicate k '/')) (StreamId.parse x) =
        compose base (StreamId.parse x) ∧
      streamsUrl (base ++ String.ofList (List.replicate k '/')) = streamsUrl base ∧
      let a := StreamId.parse x
      let b := StreamId.parse y
      [(compose base a).metaUrl = (compose base b).metaUrl,
        (compose base a).videoUrl = (compose base b).videoUrl,
        (a == b) = true,
        a.source ++ "/" ++ a.channel = b.source ++ "/" ++ b.channel].TFAE ∧
      (StreamId.parse (a.source ++ "/" ++ a.channel) == a) = true ∧
      (compose base a).metaUrl ≠ (compose base b).videoUrl ∧
      (compose base a).metaUrl ≠ streamsUrl base := by
  refine ⟨?_, ?_, ?_⟩
  · rw [← compose_normalizeBase, normalizeBase_closed, compose_normalizeBase]
  · rw [streamsUrl, normalizeBase_closed, ← streamsUrl]
  intro a b
  have hsame : [(compose base a).metaUrl = (compose base b).metaUrl,
      (compose base a).videoUrl = (compose base b).videoUrl, (a == b) = true,
      a.canonical = b.canonical].TFAE := by
    tfae_have 1 ↔ 4 := metaUrl_inj_iff base
    tfae_have 2 ↔ 4 := videoUrl_inj_iff base
    tfae_have 4 ↔ 3 := StreamId.canonical_inj_iff
    tfae_finish
  exact ⟨hsame, StreamId.parse_canonical_beq a, metaUrl_ne_videoUrl base a b,
    metaUrl_ne_streamsUrl base a⟩

end VideoWall
