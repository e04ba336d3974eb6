/-!
# The stylesheet of the page

A rule is a selector and its declarations, and is written on a line.
-/

namespace VideoWall.Page

structure Rule where
  selector : String
  declarations : List (String × String)

def Rule.render (r : Rule) : String :=
  r.selector ++ " \x7b " ++
    String.join (r.declarations.map fun d => d.1 ++ ": " ++ d.2 ++ "; ") ++ "\x7d\n"

def rules : List Rule := [
  ⟨"*", [("margin", "0"), ("padding", "0"), ("box-sizing", "border-box")]⟩,
  ⟨"body", [("font-family", "-apple-system, BlinkMacSystemFont, 'Segoe UI', Roboto, sans-serif"),
    ("background", "#1f2023"), ("color", "#e8e8e8"), ("display", "flex"),
    ("min-height", "100vh")]⟩,
  ⟨".sidebar", [("width", "280px"), ("background", "#2a2b2f"), ("padding", "20px"),
    ("display", "flex"), ("flex-direction", "column"), ("gap", "14px")]⟩,
  ⟨".sidebar h2", [("font-size", "16px"), ("color", "#a5b4fc")]⟩,
  ⟨".sidebar label", [("font-size", "13px"), ("display", "flex"), ("flex-direction", "column"),
    ("gap", "4px")]⟩,
  ⟨".sidebar label.inline", [("flex-direction", "row"), ("align-items", "center"),
    ("gap", "8px")]⟩,
  ⟨".sidebar input[type=text], .sidebar select", [("background", "#1f2023"), ("color", "#e8e8e8"),
    ("border", "1px solid #444"), ("border-radius", "6px"), ("padding", "6px")]⟩,
  ⟨".sidebar select[multiple]", [("min-height", "120px")]⟩,
  ⟨".btn", [("background", "#667eea"), ("color", "white"), ("border", "none"),
    ("padding", "8px 12px"), ("border-radius", "6px"), ("cursor", "pointer"),
    ("font-size", "13px")]⟩,
  ⟨".btn:hover", [("background", "#5a67d8")]⟩,
  ⟨".btn-secondary", [("background", "#48bb78")]⟩,
  ⟨".main", [("flex", "1"), ("padding", "20px 30px")]⟩,
  ⟨".main h1", [("margin-bottom", "16px")]⟩,
  ⟨".run-state", [("font-size", "13px"), ("color", "#9ca3af"), ("margin-bottom", "16px")]⟩,
  ⟨".alert", [("padding", "14px 18px"), ("border-radius", "8px"), ("margin-bottom", "16px")]⟩,
  ⟨".alert.error", [("background", "#fed7d7"), ("color", "#742a2a")]⟩,
  ⟨".alert.warning", [("background", "#fefcbf"), ("color", "#744210")]⟩,
  ⟨".alert.info", [("background", "#bee3f8"), ("color", "#2a4365")]⟩,
  ⟨".grid-row", [("display", "grid"), ("gap", "20px"), ("margin-bottom", "20px")]⟩,
  ⟨".tile", [("background", "#2a2b2f"), ("border-radius", "10px"), ("padding", "14px")]⟩,
  ⟨".tile h3", [("margin-bottom", "10px"), ("font-size", "16px")]⟩,
  ⟨".tile code", [("display", "block"), ("font-size", "12px"), ("background", "#111"),
    ("padding", "4px 6px"), ("border-radius", "4px"), ("margin-bottom", "6px"),
    ("word-break", "break-all")]⟩,
  ⟨".video", [("width", "100%"), ("height", "auto"), ("border-radius", "10px"),
    ("background", "#000")]⟩,
  ⟨".meta-body", [("font-size", "12px"), ("background", "#111"), ("padding", "8px"),
    ("border-radius", "6px"), ("margin-top", "10px"), ("max-height", "240px"),
    ("overflow", "auto"), ("white-space", "pre-wrap")]⟩,
  ⟨".caption", [("font-size", "12px"), ("margin-top", "6px"), ("color", "#9ca3af")]⟩,
  ⟨".caption.stale", [("color", "#f6ad55")]⟩]

/-- The text of the stylesheet. -/
def style : String :=
  "\n/* SecureSurveillance dashboard */\n" ++ String.join (rules.map Rule.render)

end VideoWall.Page
