import WebLint.Act
import WebLint.Record.Diagnostics

namespace WebLint

def Value.notIterable (v : Value) : Fault :=
  .other "TypeError" ("'" ++ v.typeName ++ "' object is not iterable")

inductive Iterable
  | value (v : Value)
  | given (vs : List Value) (stop : Option Fault)

/-- The members, if nothing stops on the way to the last: those of a text are its single code
points, those of an object are its keys. -/
def Iterable.members : Iterable → Except Fault (List Value)
  | value (.list vs) => .ok vs
  | value (.text t) => .ok (t.map fun c => .text [c])
  | value (.object fs) => .ok (fs.map fun f => .text f.1)
  | value v => .error v.notIterable
  | given vs none => .ok vs
  | given _ (some f) => .error f

def Entry.ofParts (path : Value) (items : List Value) : Check Entry :=
  rule (.object [("resource_path", path), ("items", .list items)])

namespace Report

def reports (r : Report) : List Entry :=
  r.entries

inductive Edit
  | add (path : Value) (items : Iterable)
  | assign (entries : Value)

namespace Edit

/-- Add an entry: the items are gathered, the entry is made, and only then the report changes. -/
def addition (path : Value) (items : Iterable) : Act Report Entry := do
  let vs ← Act.ofResult items.members
  let e ← Act.ofResult ((Entry.ofParts path vs).run .entry)
  Act.ofStep fun r => (.ok e, r.push e)

def assignment (entries : Value) : Act Report Unit := do
  let r ← Act.ofResult (Report.assign entries)
  Act.ofStep fun _ => (.ok (), r)

def act : Edit → Act Report (Option Entry)
  | add path items => some <$> addition path items
  | assign entries => (fun _ => none) <$> assignment entries

end Edit

def after (edits : List Edit) : Report :=
  edits.foldl (fun r d => (d.act r).memory) empty

end Report

end WebLint
