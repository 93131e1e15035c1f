import WebLint.Adapter
import WebLint.Dialect
import WebLint.Files
import WebLint.Xml.Element

namespace WebLint

open Xml

def presentAttribute (name : Text) : Option Text → List Attribute
  | none => []
  | some t => if t.isBlank then [] else [(name, t)]

def integerAttribute (name : Text) : Option Int → Except Fault (List Attribute)
  | none => .ok []
  | some n => if exceedsDigitLimit n then .error .integerTooLong else .ok [(name, integerText n)]

namespace Item

def toElement (names : DialectNames) (i : Item) : Except Fault Element := do
  let column ← integerAttribute names.column i.column
  let line ← integerAttribute "line" i.line
  return .node names.issue (column ++ presentAttribute "evidence" i.evidence ++ line ++
    presentAttribute names.reason i.reason ++ presentAttribute "severity" i.severity) []

end Item

namespace Entry

def toElement (names : DialectNames) (e : Entry) : Except Fault Element := do
  return .node "file" [("name", e.path)] (← e.items.mapM (·.toElement names))

end Entry

namespace Report

def toElement (d : Dialect) (r : Report) : Except Fault Element := do
  return .node d.names.root [] (← r.entries.mapM (·.toElement d.names))

end Report

/-- What is handed in to be formatted: a report, or some other value by mistake. -/
inductive Subject
  | report (r : Report)
  | other (v : Value)

namespace Subject

def format (s : Subject) (dialect : Value) : Except Fault Element := do
  match s with
  | other v => .error (.reportRequired (some v.kindName))
  | report r => (← Dialect.ofValue dialect) |> r.toElement

end Subject

/-- A report with the dialect in which it is to be written. -/
structure Formatter where
  report : Report
  dialect : Dialect

namespace Formatter

def make (s : Subject) (dialect : Value) : Except Fault Formatter := do
  match s with
  | .other _ => .error (.reportRequired none)
  | .report r => return ⟨r, ← Dialect.ofValue dialect⟩

def ofGroups {ρ : Type} (groups : Option (List (Value × List ρ))) (a : Adapter Unit ρ)
    (dialect : Value) : Except Fault Formatter := do
  let d ← Dialect.ofValue dialect
  let r ← (Adapter.report groups (some a) ()).result
  return ⟨r, d⟩

def ofLinterGroups (groups : Option (List (Value × List LinterRecord))) (dialect : Value) :
    Except Fault Formatter :=
  ofGroups groups LinterRecord.adapter dialect

def ofCssGroups (groups : Option (List (Value × List CssRecord))) (dialect : Value) :
    Except Fault Formatter :=
  ofGroups groups CssRecord.adapter dialect

def write (f : Formatter) : Except Fault Octets :=
  (octets true ·) <$> f.report.toElement f.dialect

/-- Write the document into a file, and make the directories that lead to it. Nothing is made unless
there is a document. -/
def save (f : Formatter) (fs : Files) (base p : Path) : Except Fault Files := do
  (fs.save base p (← f.write)).mapError Prod.fst

end Formatter

end WebLint
