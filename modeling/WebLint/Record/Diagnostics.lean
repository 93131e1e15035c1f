import WebLint.Diagnostics
import WebLint.Record.Tool

namespace WebLint

open Check

namespace Item

def rule : Rule Item :=
  Rule.record fun fs =>
    Item.mk <$> textField fs "severity" <*> integerField fs "line" <*> integerField fs "column" <*>
      textField fs "reason" <*> textField fs "evidence"

def toValue (i : Item) : Value := .object [
  ("severity", .ofOption .text i.severity), ("line", .ofOption .int i.line),
  ("column", .ofOption .int i.column), ("reason", .ofOption .text i.reason),
  ("evidence", .ofOption .text i.evidence)]

end Item

namespace Entry

def pathRule : Rule Text
  | .text t => if t.isBlank then problem .blankPath else .ok t
  | _ => problem .notText

def rule : Rule Entry :=
  Rule.record fun fs =>
    Entry.mk <$> required fs "resource_path" pathRule <*>
      defaulted fs "items" [] (Rule.sequence Item.rule)

def toValue (e : Entry) : Value := .object [
  ("resource_path", .text e.path), ("items", .list (e.items.map Item.toValue))]

/-- The entry with this path, or the problem with the path. -/
def make (path : Value) (items : List Item) : Check Entry :=
  (Entry.mk · items) <$> (pathRule path).under (.field "resource_path")

end Entry

namespace Report

def entriesRule : Rule (List Entry) :=
  Rule.list Entry.rule

def rule : Rule Report :=
  Rule.record fun fs => Report.mk <$> defaulted fs "entries" [] entriesRule

def toValue (r : Report) : Value := .object [("entries", .list (r.entries.map Entry.toValue))]

/-- Add an entry; the report stays as it was if the path is refused. -/
def add (r : Report) (path : Value) (items : List Item) : Except Fault (Report × Entry) :=
  ((Entry.make path items).run .entry).map fun e => (r.push e, e)

def assign (entries : Value) : Except Fault Report :=
  (Report.mk <$> (entriesRule entries).under (.field "entries")).run .report

end Report

end WebLint
