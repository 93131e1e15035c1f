import WebLint.Fault

namespace WebLint

/-- What a check finds: what was asked for, the problems with the value, or a fault. -/
inductive Check (α : Type)
  | ok (a : α)
  | problems (ps : List Problem)
  | fault (f : Fault)

namespace Check

variable {α β : Type}

def map (f : α → β) : Check α → Check β
  | ok a => ok (f a)
  | problems ps => problems ps
  | fault e => fault e

def seq (f : Check (α → β)) (c : Unit → Check α) : Check β :=
  match f with
  | fault e => fault e
  | ok g => (c ()).map g
  | problems ps =>
    match c () with
    | ok _ => problems ps
    | problems qs => problems (ps ++ qs)
    | fault e => fault e

instance : Applicative Check where
  pure := ok
  seq := seq
  map := map

def under (s : Step) : Check α → Check α
  | ok a => ok a
  | problems ps => problems (ps.map (.under s))
  | fault e => fault e

def problem (k : ProblemKind) : Check α :=
  problems [⟨[], k⟩]

def run (type : RecordType) : Check α → Except Fault α
  | ok a => .ok a
  | problems ps => .error (.invalid type ps)
  | fault e => .error e

def items (rule : Value → Check α) : (index : Nat) → List Value → Check (List α)
  | _, [] => ok []
  | i, v :: vs => (· :: ·) <$> (rule v).under (.index i) <*> items rule (i + 1) vs

end Check

abbrev Rule (α : Type) := Value → Check α

namespace Rule

open Check

variable {α : Type}

def text : Rule Text
  | .text t => ok t
  | _ => problem .notText

def optional (rule : Rule α) : Rule (Option α)
  | .null => ok none
  | v => some <$> rule v

def list (rule : Rule α) : Rule (List α)
  | .list vs => items rule 0 vs
  | _ => problem .notList

def sequence (rule : Rule α) : Rule (List α)
  | .list vs => items rule 0 vs
  | _ => problem .notSequence

def spacedDigits? : Text → Option Text
  | [] => none
  | [c] => if c.isAsciiDigit then some [c] else none
  | c :: u :: r =>
    if !c.isAsciiDigit then none
    else if u = '_' then (spacedDigits? r).map (c :: ·)
    else (spacedDigits? (u :: r)).map (c :: ·)

def stripped (t : Text) : Text :=
  t.trimWhile Code.isWhiteSpace

/-- A numeral without the zeros in front of it, low lines among them aside. The last of them stays
before a dot and at the end, and only a digit or a minus sign may come instead. -/
def withoutZeros? : Text → Option Text
  | [] => none
  | c :: r =>
    if c = zero then behind c r
    else if c.isAsciiDigit ∨ c = '-' then some (c :: r)
    else none
where
  zero : Code := '0'
  behind (last : Code) : Text → Option Text
    | [] => some [last]
    | c :: r =>
      if c = zero ∨ c = '_' then behind c r
      else if c.isAsciiDigit ∨ c = '-' then some (c :: r)
      else if c = '.' then some (last :: c :: r)
      else none

/-- The whole part of a numeral whose fraction, if it has one, is all zeros. -/
def wholePart? (t : Text) : Option Text :=
  match Text.cut? '.' t with
  | none => some t
  | some (whole, zeros) =>
    if zeros.isEmpty || !zeros.all (· = withoutZeros?.zero) then none else some whole

/-- A numeral without the plus sign in front of it, which must not stand before a minus sign. -/
def withoutPlus? (t : Text) : Option Text :=
  match t with
  | [] => some []
  | c :: r => if c ≠ '+' then some t else if r.head? = some minus then none else some r
where
  minus : Code := '-'

/-- A minus sign, if there is one in front, and the digits of a numeral. -/
def signedDigits? : Text → Option (Text × Text)
  | [] => none
  | c :: r =>
    if c = '-' then (spacedDigits? r).map ([c], ·) else (spacedDigits? (c :: r)).map ([], ·)

def integerText (t : Text) : Check Int :=
  if t.any Code.isSurrogate then problem .textNotEncodable
  else
    let numeral? := do signedDigits? (← wholePart? (← withoutZeros? (← withoutPlus? (stripped t))))
    match numeral? with
    | none => problem .unreadableInteger
    | some (sign, digits) =>
      if digitLimit < (sign ++ digits).length then problem .integerTooLong
      else
        let n : Int := ofAsciiDigits digits
        ok (if sign.isEmpty then n else -n)

/-- An integer, a boolean, a number without a fraction, or a text of an integer. -/
def integer : Rule Int
  | .int n => ok n
  | .bool b => ok (if b then 1 else 0)
  | .float x =>
    if !x.isFinite then problem .notFinite
    else match x.toInt? with
      | none => problem .fraction
      | some n => if powerOfTwo 63 ≤ n.natAbs then problem .integerTooLong else ok n
  | .text t => integerText t
  | _ => problem .notInteger

def truthWords : List (Text × Bool) := [
  ("0", false), ("off", false), ("f", false), ("false", false), ("n", false), ("no", false),
  ("1", true), ("on", true), ("t", true), ("true", true), ("y", true), ("yes", true)]

def smallLetter (c : Code) : Code :=
  if 0x41 ≤ c.val ∧ c.val ≤ 0x5a then Code.ofNat (c.val + 0x20) else c

def boolean : Rule Bool
  | .bool b => ok b
  | .int n =>
    if n = 0 then ok false
    else if n = 1 then ok true
    else if -(powerOfTwo 63 : Int) ≤ n ∧ n < powerOfTwo 63 then problem .unreadableBoolean
    else problem .notBoolean
  | .float x =>
    match x.toInt? with
    | some n =>
      if n = 0 then ok false
      else if n = 1 then ok true
      else if n.natAbs < powerOfTwo 63 then problem .unreadableBoolean
      else problem .notBoolean
    | none => problem .notBoolean
  | .text t =>
    if t.any Code.isSurrogate then problem .textNotEncodable
    else match truthWords.lookup (t.map smallLetter) with
    | some b => ok b
    | none => problem .unreadableBoolean
  | _ => problem .notBoolean

def choice (ofName? : Text → Option α) (k : ProblemKind) : Rule α
  | .text t =>
    match ofName? t with
    | some a => ok a
    | none => problem k
  | _ => problem k

def record (fields : List Field → Check α) : Rule α
  | .object fs => fields fs
  | _ => problem .notRecord

end Rule

namespace Check

variable {α : Type}

def required (fs : List Field) (name : Text) (rule : Rule α) : Check α :=
  match fieldOf? fs name with
  | none => (problem .missing : Check α).under (.field name)
  | some v => (rule v).under (.field name)

def defaulted (fs : List Field) (name : Text) (a : α) (rule : Rule α) : Check α :=
  match fieldOf? fs name with
  | none => ok a
  | some v => (rule v).under (.field name)

def onlyFields (fs : List Field) (known : List Text) : Check Unit :=
  match (fs.map (·.1)).filter (!known.contains ·) with
  | [] => ok ()
  | names => problems (names.map fun n => ⟨[.field n], .unknownField⟩)

end Check

end WebLint
