import VideoWall.Span

/-!
# Settings

How often the metadata is polled, how long an answer may take and how the wall is laid out.  Every
update is clamped, so that the settings in force always lie in their ranges.
-/

namespace VideoWall

/-- The refresh and layout settings of a session. -/
structure RefreshConfig where
  intervalMs : Nat := 500
  timeoutS : Binary64 := Binary64.ofRatio 7 10
  columns : Nat := 2
  showMeta : Bool := true
  showLinks : Bool := false
  running : Bool := true
  deriving DecidableEq, Repr, Inhabited

/-- An update of some of the settings. -/
structure ConfigPatch where
  intervalMs : Option Nat := none
  timeoutS : Option Binary64 := none
  columns : Option Nat := none
  showMeta : Option Bool := none
  showLinks : Option Bool := none
  running : Option Bool := none
  deriving DecidableEq, Repr, Inhabited

/-- What the program starts with. -/
structure AppConfig where
  webPort : Nat := 8090
  baseUrl : String := "http://localhost:8080"
  /-- How many streams of a newly found catalog are selected. -/
  defaultSelection : Nat := 2
  refresh : RefreshConfig := {}
  deriving DecidableEq, Repr, Inhabited

def minIntervalMs : Nat := 200

def maxIntervalMs : Nat := 2000

def minTimeoutS : Binary64 := Binary64.ofRatio 2 10

def maxTimeoutS : Binary64 := Binary64.ofRatio 3 1

def defaultTimeoutS : Binary64 := Binary64.ofRatio 7 10

def minColumns : Nat := 1

def maxColumns : Nat := 4

/-- `n` pulled into `lo ..= hi`. -/
def clampNat (lo hi n : Nat) : Nat := max lo (min hi n)

/-- A timeout pulled into its range; what is not a number becomes the default. -/
def clampTimeout : Binary64 → Binary64
  | .nan => defaultTimeoutS
  | x => x.clamp minTimeoutS maxTimeoutS

namespace RefreshConfig

/-- Each number pulled into its range. -/
def clamped (c : RefreshConfig) : RefreshConfig :=
  { c with
    intervalMs := clampNat minIntervalMs maxIntervalMs c.intervalMs
    timeoutS := clampTimeout c.timeoutS
    columns := clampNat minColumns maxColumns c.columns }

/-- The settings with those of the patch in their place. -/
def override (c : RefreshConfig) (p : ConfigPatch) : RefreshConfig where
  intervalMs := p.intervalMs.getD c.intervalMs
  timeoutS := p.timeoutS.getD c.timeoutS
  columns := p.columns.getD c.columns
  showMeta := p.showMeta.getD c.showMeta
  showLinks := p.showLinks.getD c.showLinks
  running := p.running.getD c.running

def apply (c : RefreshConfig) (p : ConfigPatch) : RefreshConfig := (c.override p).clamped

def interval (c : RefreshConfig) : Span := .ofMillis c.intervalMs

/-- The timeout, which is a span whenever it lies in its range. -/
def timeout (c : RefreshConfig) : Span := (Span.ofSeconds? c.timeoutS).getD default

end RefreshConfig

end VideoWall
