import WebLint.Record.Tool
import WebLint.Settings.Basic

namespace WebLint

abbrev RawRecord := List Field

abbrev Group (ρ : Type) := Text × List ρ

namespace Payload

def pathKeys : List Text :=
  ["file", "source", "filePath"]

def recordKeys : List Text :=
  ["errors", "messages", "warnings"]

/-- The value under the first of some keys that is there, or else null. -/
def firstPresent (entry : List Field) (keys : List Text) : Value :=
  (keys.findSome? (fieldOf? entry)).getD .null

def objects (path : Text) : List Value → Except Fault (List RawRecord)
  | [] => .ok []
  | .object fs :: vs => (objects path vs).map (fs :: ·)
  | v :: _ => .error (.quoting v (.recordNotObject path v))

def records (path : Text) : Value → Except Fault (List RawRecord)
  | .list vs => objects path vs
  | _ => .error (.recordsNotList path)

def groupOfMember (m : Field) : Except Fault (Group RawRecord) :=
  (records m.1 m.2).map (m.1, ·)

/-- The group of an entry of a list. An entry without records may leave them out, or put something
empty in their place. -/
def groupOfEntry (index : Nat) : Value → Except Fault (Group RawRecord)
  | .object fs =>
    match firstPresent fs pathKeys with
    | .text path =>
      if path.isBlank then .error (.entryUnnamed index)
      else
        let listed := firstPresent fs recordKeys
        (records path (if listed.isFalsy then .list [] else listed)).map (path, ·)
    | _ => .error (.entryUnnamed index)
  | _ => .error (.entryNotObject index)

def untilFault {α : Type} : List (Except Fault α) → List α × Option Fault
  | [] => ([], none)
  | .ok a :: rs =>
    let (as, f) := untilFault rs
    (a :: as, f)
  | .error f :: _ => ([], some f)

def groups : Value → List (Group RawRecord) × Option Fault
  | .object fs => untilFault (fs.map groupOfMember)
  | .list vs => untilFault (vs.mapIdx groupOfEntry)
  | _ => ([], some .payloadShape)

def allGroups (v : Value) : Except Fault (List (Group RawRecord)) :=
  match groups v with
  | (gs, none) => .ok gs
  | (_, some f) => .error f

/-- The value that a payload text denotes. A blank text is an empty list. -/
def decode (t : Text) : Except Fault Value :=
  let body := t.trim
  if body.isEmpty then .ok (.list [])
  else match Json.read body with
    | .ok v => .ok v
    | .error (.malformed why rest) => .error (.payloadMalformed why (.of body rest))
    | .error (.longInteger digits) => .error (.numeralTooLong digits)

def load (t : Text) : Except Fault (List (Group RawRecord)) :=
  decode t >>= allGroups

def checkGroup {ρ : Type} (type : RecordType) (rule : Rule ρ) (g : Group RawRecord) :
    Except Fault (Group ρ) :=
  let rec checkAll : List RawRecord → Except Fault (List ρ)
    | [] => .ok []
    | r :: rs =>
      match rule (.object r) with
      | .ok a => (checkAll rs).map (a :: ·)
      | .problems ps => .error (.recordInvalid type g.1 ps)
      | .fault f => .error f
  (checkAll g.2).map (g.1, ·)

def loadTyped {ρ : Type} (type : RecordType) (rule : Rule ρ) (t : Text) :
    Except Fault (List (Group ρ)) :=
  load t >>= List.mapM (checkGroup type rule)

end Payload

end WebLint
