import WebLint.Value

namespace WebLint.Json

/-- What is wrong with a text that is no JSON document. -/
inductive Complaint
  | expectingValue
  | expectingName
  | expectingColon
  | expectingComma
  | extraData
  | unterminatedString
  | controlCharacter
  | unknownEscape
  | unknownCodeEscape
  | byteOrderMark
deriving DecidableEq

/-- Why a text cannot be read: a complaint about what stands at `rest`, or an integer with too many
digits. -/
inductive Failure
  | malformed (why : Complaint) (rest : Text)
  | longInteger (digits : Nat)

abbrev Read (α : Type) := Except Failure (α × Text)

def isSpace (c : Code) : Bool :=
  c.val == 0x20 || c.val == 0x9 || c.val == 0xa || c.val == 0xd

def skipSpace (t : Text) : Text :=
  t.dropWhile isSpace

def hexQuad? (a b c d : Code) : Option Nat :=
  match a.hexValue?, b.hexValue?, c.hexValue?, d.hexValue? with
  | some w, some x, some y, some z => some (((w * 16 + x) * 16 + y) * 16 + z)
  | _, _, _, _ => none

def letterEscape? (c : Code) : Option Code :=
  if c = '"' ∨ c = '\\' ∨ c = '/' then some c
  else if c = 'b' then some (Code.ofNat 0x8)
  else if c = 'f' then some (Code.ofNat 0xc)
  else if c = 'n' then some (Code.ofNat 0xa)
  else if c = 'r' then some (Code.ofNat 0xd)
  else if c = 't' then some (Code.ofNat 0x9)
  else none

/-- The low surrogate that an escape right behind a high one names, with what follows it. None if
no escape stands there, or the text ends with it. -/
def lowSurrogate? : Text → Read (Option Nat)
  | s :: u :: a :: b :: c :: d :: e :: r =>
    if s = '\\' ∧ u = 'u' then
      match hexQuad? a b c d with
      | none => .error (.malformed .unknownCodeEscape (u :: a :: b :: c :: d :: e :: r))
      | some n => .ok (if 0xdc00 ≤ n ∧ n ≤ 0xdfff then some n else none, e :: r)
    else .ok (none, [])
  | _ => .ok (none, [])

def andThen (c : Code) : Read Text → Read Text
  | .ok (t, r) => .ok (c :: t, r)
  | .error e => .error e

def stringBody (start : Text) : Text → Read Text
  | [] => .error (.malformed .unterminatedString start)
  | c :: r =>
    if c = '"' then .ok ([], r)
    else if c = '\\' then
      match r with
      | [] => .error (.malformed .unterminatedString start)
      | e :: r1 =>
        if e = 'u' then
          match r1 with
          | h1 :: h2 :: h3 :: h4 :: z :: r2 =>
            match hexQuad? h1 h2 h3 h4 with
            | none => .error (.malformed .unknownCodeEscape (e :: r1))
            | some n =>
              if 0xd800 ≤ n ∧ n ≤ 0xdbff then
                match z, r2 with
                | s, u :: a :: b :: c' :: d :: q :: r3 =>
                  match lowSurrogate? (s :: u :: a :: b :: c' :: d :: q :: r3) with
                  | .error why => .error why
                  | .ok (some m, _) =>
                    andThen (Code.ofNat (0x10000 + (n - 0xd800) * 0x400 + (m - 0xdc00)))
                      (stringBody start (q :: r3))
                  | .ok (none, _) =>
                    andThen (Code.ofNat n)
                      (stringBody start (s :: u :: a :: b :: c' :: d :: q :: r3))
                | s, r2 => andThen (Code.ofNat n) (stringBody start (s :: r2))
              else andThen (Code.ofNat n) (stringBody start (z :: r2))
          | _ => .error (.malformed .unknownCodeEscape (e :: r1))
        else
          match letterEscape? e with
          | some d => andThen d (stringBody start r1)
          | none => .error (.malformed .unknownEscape (c :: r))
    else if c.val < 0x20 then .error (.malformed .controlCharacter (c :: r))
    else andThen c (stringBody start r)

def exponent? : Text → Option (Int × Text)
  | [] => none
  | e :: r =>
    if e = 'e' ∨ e = 'E' then
      let (minus, ds) : Bool × Text := match r with
        | s :: r' => if s = '-' then (true, r') else if s = '+' then (false, r') else (false, r)
        | [] => (false, [])
      let digits := ds.takeWhile Code.isAsciiDigit
      if digits.isEmpty then none
      else
        let n : Int := ofAsciiDigits digits
        some (if minus then -n else n, ds.dropWhile Code.isAsciiDigit)
    else none

def fraction? : Text → Option (Text × Text)
  | p :: d :: r =>
    if p = '.' ∧ d.isAsciiDigit then
      some (d :: r.takeWhile Code.isAsciiDigit, r.dropWhile Code.isAsciiDigit)
    else none
  | _ => none

/-- The longest number at the start of a text: a zero stands alone in front of the point. -/
def number? (t : Text) : Option (Read Value) :=
  let (negative, u) : Bool × Text := match t with
    | c :: r => if c = '-' then (true, r) else (false, t)
    | [] => (false, [])
  match u with
  | [] => none
  | c :: r =>
    if !c.isAsciiDigit then none
    else
      let (whole, rest) : Text × Text :=
        if c = '0' then ([c], r)
        else (c :: r.takeWhile Code.isAsciiDigit, r.dropWhile Code.isAsciiDigit)
      let fraction := fraction? rest
      let rest := (fraction.map (·.2)).getD rest
      let exponent := exponent? rest
      let rest := (exponent.map (·.2)).getD rest
      if fraction.isNone && exponent.isNone then
        if digitLimit < whole.length then some (.error (.longInteger whole.length))
        else
          let n : Int := ofAsciiDigits whole
          some (.ok (.int (if negative then -n else n), rest))
      else
        let places := (fraction.map (·.1)).getD []
        some (.ok (.float (Binary64.ofDecimal negative
          ((whole ++ places).map fun c => c.val - 0x30)
          ((exponent.map (·.1)).getD 0 - (places.length : Int))), rest))

def wordValues : List (Text × Value) := [
  ("null", .null), ("true", .bool true), ("false", .bool false), ("NaN", .float .nan),
  ("Infinity", .float (.infinity false)), ("-Infinity", .float (.infinity true))]

def word? (t : Text) : List (Text × Value) → Option (Value × Text)
  | [] => none
  | (w, v) :: ws =>
    match t.dropPrefix? w with
    | some r => some (v, r)
    | none => word? t ws

def scalar (t : Text) : Read Value :=
  match word? t wordValues with
  | some found => .ok found
  | none =>
    match number? t with
    | some found => found
    | none => .error (.malformed .expectingValue t)

mutual

def value : (fuel : Nat) → Text → Read Value
  | 0, t => .error (.malformed .expectingValue t)
  | _ + 1, [] => .error (.malformed .expectingValue [])
  | fuel + 1, c :: r =>
    if c = '"' then
      match stringBody (c :: r) r with
      | .ok (s, rest) => .ok (.text s, rest)
      | .error e => .error e
    else if c = '[' then
      match skipSpace r with
      | [] => elements fuel [] []
      | d :: r' => if d = ']' then .ok (.list [], r') else elements fuel [] (d :: r')
    else if c = '\x7b' then
      match skipSpace r with
      | [] => members fuel [] []
      | d :: r' => if d = '\x7d' then .ok (.object [], r') else members fuel [] (d :: r')
    else scalar (c :: r)

def elements : (fuel : Nat) → (done : List Value) → Text → Read Value
  | 0, _, t => .error (.malformed .expectingValue t)
  | fuel + 1, done, t =>
    match value fuel t with
    | .error e => .error e
    | .ok (v, rest) =>
      match skipSpace rest with
      | [] => .error (.malformed .expectingComma [])
      | c :: r =>
        if c = ']' then .ok (.list (v :: done).reverse, r)
        else if c = ',' then elements fuel (v :: done) (skipSpace r)
        else .error (.malformed .expectingComma (c :: r))

def members : (fuel : Nat) → (done : List (Text × Value)) → Text → Read Value
  | 0, _, t => .error (.malformed .expectingName t)
  | _ + 1, _, [] => .error (.malformed .expectingName [])
  | fuel + 1, done, q :: t =>
    if q = '"' then
      match stringBody (q :: t) t with
      | .error e => .error e
      | .ok (key, rest) =>
        match skipSpace rest with
        | [] => .error (.malformed .expectingColon [])
        | c :: r =>
          if c = ':' then
            match value fuel (skipSpace r) with
            | .error e => .error e
            | .ok (v, rest) =>
              match skipSpace rest with
              | [] => .error (.malformed .expectingComma [])
              | c :: r =>
                if c = '\x7d' then .ok (.object (putField done key v), r)
                else if c = ',' then members fuel (putField done key v) (skipSpace r)
                else .error (.malformed .expectingComma (c :: r))
          else .error (.malformed .expectingColon (c :: r))
    else .error (.malformed .expectingName (q :: t))

end

def read (t : Text) : Except Failure Value :=
  match t with
  | [] => .error (.malformed .expectingValue [])
  | c :: _ =>
    if c.val = 0xfeff then .error (.malformed .byteOrderMark t)
    else
      match value (2 * t.length + 2) (skipSpace t) with
      | .error e => .error e
      | .ok (v, rest) =>
        match skipSpace rest with
        | [] => .ok v
        | c :: r => .error (.malformed .extraData (c :: r))

/-- A place in a text: line and column from one, offset from zero. -/
structure Place where
  line : Nat
  column : Nat
  offset : Nat
deriving DecidableEq

def Place.behind (before : Text) : Place :=
  { line := before.count (Code.ofNat 0xa) + 1
    column := (before.reverse.takeWhile (· ≠ Code.ofNat 0xa)).length + 1
    offset := before.length }

def Place.of (whole rest : Text) : Place :=
  Place.behind (whole.take (whole.length - rest.length))

def Complaint.message : Complaint → Text
  | expectingValue => "Expecting value"
  | expectingName => "Expecting property name enclosed in double quotes"
  | expectingColon => "Expecting ':' delimiter"
  | expectingComma => "Expecting ',' delimiter"
  | extraData => "Extra data"
  | unterminatedString => "Unterminated string starting at"
  | controlCharacter => "Invalid control character at"
  | unknownEscape => "Invalid \\escape"
  | unknownCodeEscape => "Invalid \\uXXXX escape"
  | byteOrderMark => "Unexpected UTF-8 BOM (decode using utf-8-sig)"

def Place.message (p : Place) : Text :=
  "line " ++ numeral p.line ++ " column " ++ numeral p.column ++
    " (char " ++ numeral p.offset ++ ")"

end WebLint.Json
