import VideoWall.Page.Markup

/-!
# The script of the page

It polls the panels and swaps their text; the page is loaded anew when the layout version is not the
one it was written for.
-/

namespace VideoWall.Page

/-- What follows the two numbers, a line each. -/
def scriptLines : List String := [
  "",
  "        function showError(message) \x7b",
  "            document.getElementById('error-slot').innerHTML = '';",
  "            const box = document.createElement('div');",
  "            box.className = 'alert error';",
  "            box.textContent = message;",
  "            document.getElementById('error-slot').appendChild(box);",
  "        \x7d",
  "",
  "        async function post(path, body) \x7b",
  "            const response = await fetch(path, \x7b",
  "                method: 'POST',",
  "                headers: \x7b 'Content-Type': 'application/json' \x7d,",
  "                body: JSON.stringify(body || \x7b\x7d)",
  "            \x7d);",
  "            if (!response.ok) \x7b",
  "                const result = await response.json().catch(() => (\x7b error: " ++
    "response.statusText \x7d));",
  "                showError(result.error);",
  "            \x7d",
  "            await poll(false);",
  "        \x7d",
  "",
  "        function connectBackend() \x7b",
  "            post('/api/base-url', \x7b base_url: " ++
    "document.getElementById('base-url').value \x7d);",
  "        \x7d",
  "",
  "        function updateConfig(patch) \x7b",
  "            post('/api/config', patch);",
  "        \x7d",
  "",
  "        function applySelection() \x7b",
  "            const streams = " ++
    "Array.from(document.getElementById('selection').selectedOptions).map(o => o.value);",
  "            post('/api/selection', \x7b streams \x7d);",
  "        \x7d",
  "",
  "        function rescan() \x7b",
  "            post('/api/rescan');",
  "        \x7d",
  "",
  "        // Only panel text is replaced here; video elements stay mounted.",
  "        async function poll(reschedule) \x7b",
  "            try \x7b",
  "                const response = await fetch('/api/panels');",
  "                const data = await response.json();",
  "                if (data.layout_version !== LAYOUT_VERSION) \x7b",
  "                    window.location.reload();",
  "                    return;",
  "                \x7d",
  "                intervalMs = data.interval_ms;",
  "                document.getElementById('run-state').textContent = data.running " ++
    "? 'Running' : 'Paused';",
  "                data.panels.forEach((panel, slot) => \x7b",
  "                    const body = document.getElementById('meta-body-' + slot);",
  "                    const caption = document.getElementById('meta-caption-' + slot);",
  "                    if (body) body.textContent = panel.body;",
  "                    if (caption) \x7b",
  "                        caption.textContent = panel.caption;",
  "                        caption.className = panel.status.state === 'stale' ? " ++
    "'caption stale' : 'caption';",
  "                    \x7d",
  "                \x7d);",
  "            \x7d catch (e) \x7b",
  "                // Dashboard unreachable; keep showing the last panels.",
  "            \x7d",
  "            if (reschedule) setTimeout(() => poll(true), intervalMs);",
  "        \x7d",
  "",
  "        setTimeout(() => poll(true), intervalMs);"]

def script (layoutVersion intervalMs : Nat) : List Piece :=
  [.markup "<script>\n        const LAYOUT_VERSION = ", .nat layoutVersion,
    .markup ";\n        let intervalMs = ", .nat intervalMs, .markup ";\n"] ++
  scriptLines.map (fun line => .markup (line ++ "\n")) ++ [.markup "    </script>"]

end VideoWall.Page
