import WebLint.Number.Binary64
import WebLint.Text.Quoted

namespace WebLint

/-- A point in time of a configuration file. Offsets are in minutes east of Greenwich. -/
inductive Moment
  | date (year month day : Nat)
  | time (hour minute second microsecond : Nat)
  | dateTime (year month day hour minute second microsecond : Nat) (offset : Option Int)
deriving DecidableEq

inductive Value
  | null
  | bool (b : Bool)
  | int (n : Int)
  | float (x : Binary64)
  | text (t : Text)
  | moment (m : Moment)
  | list (items : List Value)
  | object (fields : List (Text × Value))

instance : Inhabited Value := ⟨.null⟩

abbrev Field := Text × Value

/-- Put a field last, or replace the value of a key that is there already. -/
def putField (fields : List Field) (key : Text) (v : Value) : List Field :=
  match fields with
  | [] => [(key, v)]
  | (k, w) :: rest => if k = key then (k, v) :: rest else (k, w) :: putField rest key v

def fieldOf? (fields : List Field) (key : Text) : Option Value :=
  (fields.find? fun f => f.1 == key).map (·.2)

namespace Moment

def numerals (ns : List Nat) : Text :=
  Text.join ", " (ns.map numeral)

/-- Clock parts without a microsecond of zero, and then without a second of zero. -/
def clock (hour minute second microsecond : Nat) : List Nat :=
  if microsecond ≠ 0 then [hour, minute, second, microsecond]
  else if second ≠ 0 then [hour, minute, second]
  else [hour, minute]

def offsetShown (minutes : Int) : Text :=
  if minutes = 0 then "datetime.timezone.utc"
  else
    let seconds := minutes * 60
    let days := Int.fdiv seconds 86400
    let rest := Int.fmod seconds 86400
    let daysShown : Text := if days = 0 then [] else "days=" ++ integerText days ++ ", "
    "datetime.timezone(datetime.timedelta(" ++ daysShown ++ "seconds=" ++ integerText rest ++ "))"

def shown : Moment → Text
  | date y m d => "datetime.date(" ++ numerals [y, m, d] ++ ")"
  | time h m s us => "datetime.time(" ++ numerals (clock h m s us) ++ ")"
  | dateTime y mo d h m s us offset =>
    let zone : Text := match offset with
      | none => []
      | some o => ", tzinfo=" ++ offsetShown o
    "datetime.datetime(" ++ numerals ([y, mo, d] ++ clock h m s us) ++ zone ++ ")"

end Moment

namespace Value

def kindName : Value → Text
  | null => "NoneType"
  | bool _ => "bool"
  | int _ => "int"
  | float _ => "float"
  | text _ => "str"
  | moment (.date ..) => "date"
  | moment (.time ..) => "time"
  | moment (.dateTime ..) => "datetime"
  | list _ => "list"
  | object _ => "dict"

def typeName (v : Value) : Text :=
  match v with
  | moment _ => "datetime." ++ v.kindName
  | _ => v.kindName

mutual

/-- A value as messages show it: texts are quoted, lists stand in brackets, objects in braces. -/
def shown : Value → Text
  | null => "None"
  | bool b => if b then "True" else "False"
  | int n => integerText n
  | float x => x.text
  | text t => t.quoted
  | moment m => m.shown
  | list items => "[" ++ shownItems items ++ "]"
  | object fields => "\x7b" ++ shownFields fields ++ "\x7d"

def shownItems : List Value → Text
  | [] => []
  | [v] => shown v
  | v :: vs => shown v ++ ", " ++ shownItems vs

def shownFields : List (Text × Value) → Text
  | [] => []
  | [(k, v)] => k.quoted ++ ": " ++ shown v
  | (k, v) :: fs => k.quoted ++ ": " ++ shown v ++ ", " ++ shownFields fs

end

mutual

def exceedsDigitLimit : Value → Bool
  | int n => WebLint.exceedsDigitLimit n
  | list items => anyExceeds items
  | object fields => anyFieldExceeds fields
  | _ => false

def anyExceeds : List Value → Bool
  | [] => false
  | v :: vs => exceedsDigitLimit v || anyExceeds vs

def anyFieldExceeds : List (Text × Value) → Bool
  | [] => false
  | (_, v) :: fs => exceedsDigitLimit v || anyFieldExceeds fs

end

def plain : Value → Text
  | text t => t
  | v => shown v

def field? (v : Value) (key : Text) : Option Value :=
  match v with
  | object fields => fieldOf? fields key
  | _ => none

def isFalsy : Value → Bool
  | null => true
  | bool b => !b
  | int n => n == 0
  | float (.finite _ mantissa _) => mantissa == 0
  | float _ => false
  | text t => t.isEmpty
  | moment _ => false
  | list items => items.isEmpty
  | object fields => fields.isEmpty

end Value

end WebLint
