import WebLint.Act
import WebLint.Record.Diagnostics
import WebLint.Severity

namespace WebLint

/-- How the records of a tool become findings. An adapter may remember what it did before. -/
structure Adapter (σ ρ : Type) where
  tool : Text
  adapt : ρ → σ → Except Fault Item × σ

namespace Adapter

variable {σ ρ : Type}

def ofFunction (tool : Text) (f : ρ → Except Fault Item) : Adapter σ ρ where
  tool := tool
  adapt r s := (f r, s)

def adaptRecords (a : Adapter σ ρ) (path : Value) : (index : Nat) → List ρ → Act σ (List Item)
  | _, [] => return []
  | i, r :: rs => do
    let item ← Act.mapFault (fun f => .quoting path (.adaptation path i f)) (.ofStep (a.adapt r))
    return item :: (← adaptRecords a path (i + 1) rs)

def makeEntry (path : Value) (items : List Item) : Except Fault Entry :=
  match Entry.make path items with
  | .ok e => .ok e
  | .problems ps => .error (.quoting path (.pathInvalid path ps))
  | .fault f => .error f

def adaptGroups (a : Adapter σ ρ) : Report → List (Value × List ρ) → Act σ Report
  | report, [] => return report
  | report, (path, records) :: gs => do
    let items ← a.adaptRecords path 0 records
    let e ← Act.ofResult (makeEntry path items)
    Act.note (.adapted items.length a.tool e.path)
    adaptGroups a (report.push e) gs

def report (groups : Option (List (Value × List ρ))) (adapter : Option (Adapter σ ρ)) :
    Act σ Report :=
  match groups, adapter with
  | none, _ => .fail .groupsRequired
  | _, none => .fail .adapterRequired
  | some gs, some a => a.adaptGroups .empty gs

end Adapter

namespace LinterRecord

def toItem (r : LinterRecord) : Item where
  severity := (r.code.bind Severity.ofCode?).map Severity.name
  line := r.line
  column := r.character
  reason := r.reason
  evidence := r.evidence

def adapter {σ : Type} (tool : Text := "linter") : Adapter σ LinterRecord :=
  .ofFunction tool fun r => .ok r.toItem

end LinterRecord

namespace CssRecord

def toItem (r : CssRecord) : Item where
  severity := r.type
  line := r.line
  column := r.col
  reason := r.message
  evidence := r.evidence

def adapter {σ : Type} (tool : Text := "csslint") : Adapter σ CssRecord :=
  .ofFunction tool fun r => .ok r.toItem

end CssRecord

/-- Where the parts of a finding stand in a record: names of parts with the keys that hold them. A
part that is not listed stands under its own name. -/
structure FieldMapping where
  tool : Text
  keys : List (Text × Text)

namespace FieldMapping

def itemFields : List Text :=
  ["severity", "line", "column", "reason", "evidence"]

def make (tool : Text) (keys : List (Text × Text)) : Except Fault FieldMapping :=
  let unknown := (keys.map (·.1)).filter (!itemFields.contains ·)
  if unknown.isEmpty then .ok ⟨tool, keys⟩
  else .error (.unknownItemFields tool (unknown.mergeSort Text.le))

def lookup (m : FieldMapping) (record : List Field) (part : Text) : Value :=
  (fieldOf? record ((m.keys.lookup part).getD part)).getD .null

def plainText : Value → Except Fault (Option Text)
  | .null => .ok none
  | .text t => .ok (some t)
  | v => if v.exceedsDigitLimit then .error .integerTooLong else .ok (some v.shown)

def looksNumeric (t : Text) : Bool :=
  let digits := t.dropWhile (· = minus)
  !digits.isEmpty && digits.all Code.isDigit
where
  minus : Code := '-'

/-- The integer of a numeral: decimal digits of any script, with at most one minus sign. -/
def numeralInteger (t : Text) : Except Fault Int :=
  let (negative, digits) : Bool × Text := match t with
    | c :: r => if c = '-' then (true, r) else (false, t)
    | [] => (false, [])
  let count := (digits.takeWhile Code.isDecimal).length
  if digitLimit < count then .error (.numeralTooLong count)
  else match looseDigits? digits with
    | some ds =>
      let n : Int := ofDigits ds
      .ok (if negative then -n else n)
    | none => .error (.numeralUnreadable t)

def integer (part : Text) (v : Value) : Except Fault (Option Int) :=
  let refused : Fault := .quoting v (.notInteger part v)
  match v with
  | .null => .ok none
  | .int n => .ok (some n)
  | .text t => if looksNumeric t.trim then (numeralInteger t.trim).map some else .error refused
  | _ => .error refused

/-- The finding of a record. A severity that is known by its label gets its usual name, any other
is taken as it is. -/
def item (m : FieldMapping) : Value → Except Fault Item
  | .object record => do
    let severity := m.lookup record "severity"
    let severity ← match Severity.ofLabel? Severity.commonAliases severity with
      | some s => .ok (some s.name)
      | none => plainText severity
    let line ← integer "line" (m.lookup record "line")
    let column ← integer "column" (m.lookup record "column")
    let reason ← plainText (m.lookup record "reason")
    let evidence ← plainText (m.lookup record "evidence")
    return { severity, line, column, reason, evidence }
  | _ => .error .noSuchPart

def adapter {σ : Type} (m : FieldMapping) : Adapter σ Value :=
  .ofFunction m.tool m.item

end FieldMapping

end WebLint
