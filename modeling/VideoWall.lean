import VideoWall.Proofs.Ages
import VideoWall.Proofs.Bases
import VideoWall.Proofs.Cadence
import VideoWall.Proofs.Catalogs
import VideoWall.Proofs.Choices
import VideoWall.Proofs.Counterparts
import VideoWall.Proofs.Discoveries
import VideoWall.Proofs.Elements
import VideoWall.Proofs.Endings
import VideoWall.Proofs.Escapes
import VideoWall.Proofs.Generations
import VideoWall.Proofs.Histories
import VideoWall.Proofs.Interleavings
import VideoWall.Proofs.Layouts
import VideoWall.Proofs.Likeness
import VideoWall.Proofs.Locations
import VideoWall.Proofs.Magnitudes
import VideoWall.Proofs.Numerals
import VideoWall.Proofs.Options
import VideoWall.Proofs.Outlines
import VideoWall.Proofs.Partials
import VideoWall.Proofs.Polled
import VideoWall.Proofs.Readings
import VideoWall.Proofs.Records
import VideoWall.Proofs.Refusals
import VideoWall.Proofs.Requests
import VideoWall.Proofs.Restored
import VideoWall.Proofs.Selections
import VideoWall.Proofs.Separation
import VideoWall.Proofs.Settings
import VideoWall.Proofs.Slots
import VideoWall.Proofs.Spellings
import VideoWall.Proofs.Stillness
import VideoWall.Proofs.Switches
import VideoWall.Proofs.Timers
import VideoWall.Proofs.Undisturbed
import VideoWall.Proofs.Writes
import VideoWall.Run.Polling
