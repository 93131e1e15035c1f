import WebLint.Value

namespace WebLint.Toml

/-- Why a document cannot be read: its syntax, or an integer with too many digits. -/
inductive Failure
  | malformed
  | longInteger (digits : Nat)
deriving DecidableEq

abbrev Reader := StateT Text (Except Failure)

namespace Reader

def malformed {α : Type} : Reader α :=
  throw .malformed

def peek : Reader (Option Code) := do
  return (← get).head?

def advance : Reader Unit := do
  set (← get).tail

def accept (t : Text) : Reader Bool := do
  match (← get).dropPrefix? t with
  | none => return false
  | some rest =>
    set rest
    return true

def expect (t : Text) : Reader Unit := do
  if !(← accept t) then malformed

def all (p : Code → Bool) : Reader Text := do
  let t ← get
  set (t.dropWhile p)
  return t.takeWhile p

def isBlank (c : Code) : Bool :=
  c.val == 0x20 || c.val == 0x9

def isBlankOrNewline (c : Code) : Bool :=
  isBlank c || c.val == 0xa

def skipBlanks : Reader Unit := do
  let _ ← all isBlank

end Reader

open Reader

/-- A control code point; only the tabulator may stand in a comment or a string. -/
def isControl (c : Code) : Bool :=
  (c.val < 0x20 || c.val == 0x7f) && c.val != 0x9

def isControlInLines (c : Code) : Bool :=
  isControl c && c.val != 0xa

def skipComment : Reader Unit := do
  if ← accept "#" then
    if (← all (·.val != 0xa)).any isControl then malformed

/-- The code point of a number in hexadecimal digits, of which there must be `n`. -/
def hexCode (n : Nat) : Reader Code := do
  let t ← get
  let digits := (t.take n).filterMap Code.hexValue?
  let value := digits.foldl (fun v d => 16 * v + d) 0
  if digits.length ≠ n then malformed
  if 0x110000 ≤ value || (Code.ofNat value).isSurrogate then malformed
  set (t.drop n)
  return Code.ofNat value

def letterEscape? (c : Code) : Option Code :=
  if c = '"' ∨ c = '\\' then some c
  else if c = 'b' then some (Code.ofNat 0x8)
  else if c = 't' then some (Code.ofNat 0x9)
  else if c = 'n' then some (Code.ofNat 0xa)
  else if c = 'f' then some (Code.ofNat 0xc)
  else if c = 'r' then some (Code.ofNat 0xd)
  else none

/-- What an escape stands for, whose backslash is read. In a string of several lines, a backslash
at the end of a line takes the break and the white space behind it away. -/
def escape (multiline : Bool) : Reader Text := do
  match ← peek with
  | none => malformed
  | some c =>
    advance
    if multiline && isBlankOrNewline c then
      if c.val != 0xa then
        skipBlanks
        match ← peek with
        | none => return []
        | some d => if d.val != 0xa then malformed else advance
      let _ ← all isBlankOrNewline
      return []
    else if c = 'u' then return [← hexCode 4]
    else if c = 'U' then return [← hexCode 8]
    else match letterEscape? c with
    | some d => return [d]
    | none => malformed

/-- A basic string up to its closing quotes. Each step takes something, so `fuel` bounds them. -/
def basicBody (multiline : Bool) : (fuel : Nat) → Reader Text
  | 0 => malformed
  | fuel + 1 => do
    if ← accept (if multiline then "\"\"\"" else "\"") then return []
    match ← peek with
    | none => malformed
    | some c =>
      advance
      if c = '\\' then return (← escape multiline) ++ (← basicBody multiline fuel)
      else if if multiline then isControlInLines c else isControl c then malformed
      else return c :: (← basicBody multiline fuel)

def literalBody (multiline : Bool) : (fuel : Nat) → Reader Text
  | 0 => malformed
  | fuel + 1 => do
    if ← accept (if multiline then "'''" else "'") then return []
    match ← peek with
    | none => malformed
    | some c =>
      advance
      if if multiline then isControlInLines c else isControl c then malformed
      else return c :: (← literalBody multiline fuel)

/-- Up to two more quotes, which belong to a string of several lines that they end. -/
def moreQuotes (quote : Text) : Reader Text := do
  if ← accept quote then
    if ← accept quote then return quote ++ quote
    return quote
  return []

def lineString? : Reader (Option Text) := do
  let fuel := (← get).length + 1
  if ← accept "\"" then return some (← basicBody false fuel)
  else if ← accept "'" then return some (← literalBody false fuel)
  else return none

def string? : Reader (Option Text) := do
  let fuel := (← get).length + 1
  if ← accept "\"\"\"" then
    let _ ← accept "\n"
    let body ← basicBody true fuel
    return some (body ++ (← moreQuotes "\""))
  else if ← accept "'''" then
    let _ ← accept "\n"
    let body ← literalBody true fuel
    return some (body ++ (← moreQuotes "'"))
  else lineString?

/-! ### Numbers -/

/-- Digits of a class, with single low lines between them allowed, and what follows. -/
def spacedDigits (isDigit : Code → Bool) : Text → Text × Text
  | [] => ([], [])
  | [c] => if isDigit c then ([c], []) else ([], [c])
  | c :: d :: r =>
    if !isDigit c then ([], c :: d :: r)
    else if d = '_' ∧ (r.head?.map isDigit).getD false then
      let (ds, rest) := spacedDigits isDigit r
      (c :: ds, rest)
    else
      let (ds, rest) := spacedDigits isDigit (d :: r)
      (c :: ds, rest)

def fraction? (t : Text) : Option (Text × Text) :=
  (t.dropPrefix? ".").bind fun r =>
    let (ds, rest) := spacedDigits Code.isAsciiDigit r
    if ds.isEmpty then none else some (ds, rest)

def sign : Text → Bool × Text
  | [] => (false, [])
  | c :: r => if c = '-' then (true, r) else if c = '+' then (false, r) else (false, c :: r)

def exponent? : Text → Option (Int × Text)
  | [] => none
  | e :: r =>
    if e = 'e' ∨ e = 'E' then
      let (minus, t) := sign r
      let (ds, rest) := spacedDigits Code.isAsciiDigit t
      let n : Int := ofAsciiDigits ds
      if ds.isEmpty then none else some (if minus then -n else n, rest)
    else none

def bases : List (Text × Nat) := [("0x", 16), ("0b", 2), ("0o", 8)]

def basedInteger? (t : Text) : Option (Nat × Text) :=
  bases.findSome? fun (start, base) =>
    (t.dropPrefix? start).bind fun r =>
      let (ds, rest) := spacedDigits (fun c => c.hexValue?.any (· < base)) r
      if ds.isEmpty then none
      else some ((ds.filterMap Code.hexValue?).foldl (fun v d => base * v + d) 0, rest)

def wholePart : Text → Text × Text
  | [] => ([], [])
  | c :: r => if c = '0' then ([c], r) else spacedDigits Code.isAsciiDigit (c :: r)

def number? (t : Text) : Option (Except Failure (Value × Text)) :=
  match basedInteger? t with
  | some (n, rest) => some (.ok (.int n, rest))
  | none =>
    let (negative, u) := sign t
    let (whole, rest) := wholePart u
    if whole.isEmpty then none
    else
      let fraction := fraction? rest
      let rest := (fraction.map (·.2)).getD rest
      let exponent := exponent? rest
      let rest := (exponent.map (·.2)).getD rest
      if fraction.isNone && exponent.isNone then
        if digitLimit < whole.length then some (.error (.longInteger whole.length))
        else
          let n : Int := ofAsciiDigits whole
          some (.ok (.int (if negative then -n else n), rest))
      else
        let places := (fraction.map (·.1)).getD []
        some (.ok (.float (Binary64.ofDecimal negative ((whole ++ places).map fun c => c.val - 0x30)
          ((exponent.map (·.1)).getD 0 - (places.length : Int))), rest))

/-- The words that stand for values. The first that fits counts, whatever follows it. -/
def words : List (Text × Value) := [
  ("true", .bool true), ("false", .bool false), ("inf", .float (.infinity false)),
  ("nan", .float .nan), ("+inf", .float (.infinity false)), ("-inf", .float (.infinity true)),
  ("+nan", .float .nan), ("-nan", .float .nan)]

/-! ### Moments -/

def bounded? (n lo hi : Nat) (t : Text) : Option (Nat × Text) :=
  let ds := t.take n
  let value := ofAsciiDigits ds
  if ds.length = n ∧ ds.all Code.isAsciiDigit ∧ lo ≤ value ∧ value ≤ hi then
    some (value, t.drop n)
  else none

def microseconds (t : Text) : Nat × Text :=
  match t.dropPrefix? "." with
  | none => (0, t)
  | some r =>
    let ds := r.takeWhile Code.isAsciiDigit
    if ds.isEmpty then (0, t)
    else
      let six := ds.take 6
      (ofAsciiDigits six * powerOfTen (6 - six.length), r.drop ds.length)

def clock? (t : Text) : Option ((Nat × Nat × Nat × Nat) × Text) := do
  let (hour, t) ← bounded? 2 0 23 t
  let (minute, t) ← bounded? 2 0 59 (← t.dropPrefix? ":")
  let (second, t) ← bounded? 2 0 59 (← t.dropPrefix? ":")
  let (microsecond, t) := microseconds t
  return ((hour, minute, second, microsecond), t)

def offset (t : Text) : Option Int × Text :=
  match t with
  | [] => (none, t)
  | c :: r =>
    if c = 'Z' ∨ c = 'z' then (some 0, r)
    else if c = '+' ∨ c = '-' then
      let found? : Option (Nat × Text) := do
        let (hours, r) ← bounded? 2 0 23 r
        let (minutes, r) ← bounded? 2 0 59 (← r.dropPrefix? ":")
        return (60 * hours + minutes, r)
      match found? with
      | some (minutes, rest) => (some (if c = '-' then -(minutes : Int) else minutes), rest)
      | none => (none, t)
    else (none, t)

def isDay (year month day : Nat) : Bool :=
  let leap := year % 4 == 0 && (year % 100 != 0 || year % 400 == 0)
  let last :=
    if month = 2 then if leap then 29 else 28
    else if month = 4 ∨ month = 6 ∨ month = 9 ∨ month = 11 then 30 else 31
  1 ≤ year && day ≤ last

def dated? (t : Text) : Option (Except Failure (Value × Text)) := do
  let (year, t) ← bounded? 4 0 9999 t
  let (month, t) ← bounded? 2 1 12 (← t.dropPrefix? "-")
  let (day, t) ← bounded? 2 1 31 (← t.dropPrefix? "-")
  let timed? := match t with
    | c :: r => if c = 'T' ∨ c = 't' ∨ c.val = 0x20 then clock? r else none
    | [] => none
  if !isDay year month day then return .error .malformed
  match timed? with
  | none => return .ok (.moment (.date year month day), t)
  | some ((h, m, s, us), t) =>
    let (zone, rest) := offset t
    return .ok (.moment (.dateTime year month day h m s us zone), rest)

def timed? (t : Text) : Option (Except Failure (Value × Text)) :=
  (clock? t).map fun ((h, m, s, us), rest) => .ok (.moment (.time h m s us), rest)

def scalar : Reader Value := fun t =>
  let word? (ws : List (Text × Value)) : Option (Except Failure (Value × Text)) :=
    ws.findSome? fun (w, v) => (t.dropPrefix? w).map fun r => .ok (v, r)
  match word? words <|> dated? t <|> timed? t <|> number? t with
  | some found => found
  | none => .error .malformed

end WebLint.Toml
