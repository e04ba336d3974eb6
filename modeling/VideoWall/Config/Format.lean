import VideoWall.Config
import VideoWall.Json.Decoder

/-!
# Settings as JSON

Settings are written as an object with every field.  Read as settings, a missing field has its
default; read as a patch, a missing field and `null` leave a setting as it is.
-/

namespace VideoWall

namespace RefreshConfig

def toJson (c : RefreshConfig) : Json :=
  .obj [("interval_ms", .nat c.intervalMs), ("timeout_s", .float c.timeoutS),
    ("columns", .nat c.columns), ("show_meta", .bool c.showMeta),
    ("show_links", .bool c.showLinks), ("running", .bool c.running)]

open Json in
def record : Record RefreshConfig where
  name := "RefreshConfig"
  blank := {}
  partialLists := true
  fields := [
    field "interval_ms" Decoder.u64 fun a c => { c with intervalMs := a },
    field "timeout_s" Decoder.binary64 fun a c => { c with timeoutS := a },
    field "columns" Decoder.size fun a c => { c with columns := a },
    field "show_meta" Decoder.boolean fun a c => { c with showMeta := a },
    field "show_links" Decoder.boolean fun a c => { c with showLinks := a },
    field "running" Decoder.boolean fun a c => { c with running := a }]

end RefreshConfig

namespace ConfigPatch

open Json in
def record : Record ConfigPatch where
  name := "RefreshConfigPatch"
  blank := {}
  partialLists := false
  fields := [
    field "interval_ms" (Decoder.optional Decoder.u64) fun a p => { p with intervalMs := a },
    field "timeout_s" (Decoder.optional Decoder.binary64) fun a p => { p with timeoutS := a },
    field "columns" (Decoder.optional Decoder.size) fun a p => { p with columns := a },
    field "show_meta" (Decoder.optional Decoder.boolean) fun a p => { p with showMeta := a },
    field "show_links" (Decoder.optional Decoder.boolean) fun a p => { p with showLinks := a },
    field "running" (Decoder.optional Decoder.boolean) fun a p => { p with running := a }]

/-- The patch that a text spells. -/
def ofText (text : Json.Bytes) : Except Json.Fault ConfigPatch := Json.readAll record.decode text

end ConfigPatch

namespace AppConfig

open Json in
def record : Record AppConfig where
  name := "AppConfig"
  blank := {}
  partialLists := true
  fields := [
    field "web_port" Decoder.u16 fun a c => { c with webPort := a },
    field "base_url" Decoder.text fun a c => { c with baseUrl := a },
    field "default_selection" Decoder.size fun a c => { c with defaultSelection := a },
    field "refresh" RefreshConfig.record.decode fun a c => { c with refresh := a }]

/-- The settings that a text spells, with the refresh settings clamped. -/
def ofText (text : Json.Bytes) : Except Json.Fault AppConfig :=
  (Json.readAll record.decode text).map fun c => { c with refresh := c.refresh.clamped }

/-! ## The settings file -/

/-- What is found where the settings file should be. -/
inductive Source where
  | missing
  | directory
  | file (content : Json.Bytes)
  deriving Repr

inductive LoadError where
  | isDirectory
  | notText
  | badJson (message : String)
  deriving DecidableEq, Repr

/-- What went wrong, from what was attempted down to its cause. -/
def LoadError.chain (path : String) : LoadError → List String
  | isDirectory => ["failed reading " ++ path, "Is a directory (os error 21)"]
  | notText => ["failed reading " ++ path, "stream did not contain valid UTF-8"]
  | badJson message => ["failed parsing " ++ path, message]

/-- The settings of a session; without a file they are the defaults. -/
def load : Source → Except LoadError AppConfig
  | .missing => .ok {}
  | .directory => .error .isDirectory
  | .file content =>
    match String.fromUTF8? ⟨content.toArray⟩ with
    | none => .error .notText
    | some _ =>
      match ofText content with
      | .ok config => .ok config
      | .error fault => .error (.badJson (fault.message content))

end AppConfig

end VideoWall
