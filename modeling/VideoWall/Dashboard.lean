import VideoWall.Config
import VideoWall.Endpoints
import VideoWall.Poller
import VideoWall.Text

/-!
# The dashboard

The base address, the catalog of streams found there, the streams that are selected and the refresh
settings.  A discovery asks a backend for its catalog; its answer counts only while the base address
is the one it was sent to.  Whatever changes what is on the page raises the layout version, and
`Dashboard.update` is the plan under which exactly the streams on the page are polled.
-/

namespace VideoWall

/-- What is known of the streams of the backend. -/
inductive Catalog where
  | pending
  | loaded (streams : List StreamId)
  | failed (message : String)
  deriving Repr, Inhabited

structure Dashboard where
  baseUrl : String
  config : RefreshConfig
  catalog : Catalog
  selection : List StreamId
  layoutVersion : Nat
  /-- How many streams of a newly found catalog are selected. -/
  defaultSelection : Nat
  deriving Repr, Inhabited

namespace Catalog

def streams? : Catalog → Option (List StreamId)
  | loaded streams => some streams
  | _ => none

def isLoaded (c : Catalog) : Bool := c.streams?.isSome

end Catalog

namespace Dashboard

/-- A dashboard that knows nothing of its backend yet. -/
def ofConfig (c : AppConfig) : Dashboard where
  baseUrl := normalizeBase c.baseUrl
  config := c.refresh.clamped
  catalog := .pending
  selection := []
  layoutVersion := 0
  defaultSelection := c.defaultSelection

/-- What is to be polled: the selected streams of a loaded catalog. -/
def targets (d : Dashboard) : List Target :=
  match d.catalog with
  | .loaded _ => d.selection.map fun id => ⟨id, (compose d.baseUrl id).metaUrl⟩
  | _ => []

/-- The plan for the poller. -/
def update (d : Dashboard) (invalidate : Bool) : PlanUpdate where
  running := d.config.running
  interval := d.config.interval
  timeout := d.config.timeout
  targets := d.targets
  invalidate

/-! ## Operations -/

/-- The first of `raws` that is not in the catalog. -/
def firstUnknown (streams : List StreamId) (raws : List String) : Option String :=
  raws.find? fun raw => !streams.contains (StreamId.parse raw)

/-- Selects streams of the catalog, each once, in the order given. -/
def select (d : Dashboard) (raws : List String) : Except DashboardError Dashboard :=
  match d.catalog with
  | .loaded streams =>
    match firstUnknown streams raws with
    | some raw => .error (.unknownStream raw)
    | none =>
      .ok { d with
        selection := StreamId.distinct (raws.map StreamId.parse)
        layoutVersion := d.layoutVersion + 1 }
  | _ => .error (.unknownStream (raws.headD ""))

/-- Applies a patch to the settings. -/
def updateConfig (d : Dashboard) (p : ConfigPatch) : Dashboard :=
  let next := d.config.apply p
  { d with
    config := next
    layoutVersion :=
      if next.columns != d.config.columns || next.showMeta != d.config.showMeta ||
          next.showLinks != d.config.showLinks then d.layoutVersion + 1
      else d.layoutVersion }

/-- The base address that a text names. -/
def baseOf (text : String) : String := normalizeBase (Text.trim text)

/-- Turns to another backend, of which nothing is known yet. -/
def switch (d : Dashboard) (text : String) : Except DashboardError Dashboard :=
  if baseOf text = "" then .error .emptyBaseUrl
  else
    .ok { d with
      baseUrl := baseOf text
      catalog := .pending
      selection := []
      layoutVersion := d.layoutVersion + 1 }

/-! ## Discovery -/

/-- The selection from a new catalog: what it has of the old selection, or its first streams. -/
def selectionFrom (d : Dashboard) (keep : Bool) (streams : List StreamId) : List StreamId :=
  if keep then d.selection.filter fun id => streams.contains id
  else streams.take d.defaultSelection

/-- The dashboard after the answer to a discovery at `base`; `none` if the answer changes nothing.
A failure to renew a loaded catalog leaves it in place. -/
def discovered (d : Dashboard) (base : String) (keep : Bool)
    (result : Except FetchFailure (List StreamId)) : Option Dashboard :=
  if d.baseUrl ≠ base then none
  else
    match result with
    | .ok streams =>
      some { d with
        selection := d.selectionFrom keep streams
        catalog := .loaded streams
        layoutVersion := d.layoutVersion + 1 }
    | .error failure =>
      if keep && d.catalog.isLoaded then none
      else
        some { d with
          catalog := .failed (DashboardError.discovery (streamsUrl base) failure).message
          layoutVersion := d.layoutVersion + 1 }

/-- What the one who asked for a discovery is told. -/
def verdict (d : Dashboard) (base : String) (result : Except FetchFailure (List StreamId)) :
    Except DashboardError Unit :=
  if d.baseUrl ≠ base then .ok ()
  else
    match result with
    | .ok _ => .ok ()
    | .error failure => .error (.discovery (streamsUrl base) failure)

end Dashboard

end VideoWall
