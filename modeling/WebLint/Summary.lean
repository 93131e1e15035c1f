import WebLint.Diagnostics
import WebLint.Display.Notice
import WebLint.Display.Table

namespace WebLint

namespace Report

def summaryTable (r : Report) (emoji : Bool) : Except Fault Table := do
  let rows ← r.entries.mapM fun e => do
    return (← Markup.render emoji e.path, numeral e.items.length)
  return ⟨("Resource", "Issues"), rows⟩

def totalsLine (r : Report) (emoji : Bool) : Text :=
  let n : Notice := if r.totalItems = 0 then .success else .warning
  symbol n.mark emoji ++ numeral r.totalItems ++ " issue(s) across " ++
    numeral r.entries.length ++ " resource(s)\n"

/-- What is printed of a report, unless the settings ask for quiet. -/
def summary (r : Report) (s : OutputSettings) : Except Fault Text := do
  if s.quiet then return []
  let table ← if r.entries.isEmpty then pure [] else Table.text <$> r.summaryTable s.emoji
  return table ++ r.totalsLine s.emoji

end Report

end WebLint
