import WebLint.Number.Decimal

namespace WebLint

inductive Binary64
  | finite (negative : Bool) (mantissa exponent : Nat)
  | infinity (negative : Bool)
  | nan
deriving DecidableEq

namespace Binary64

def roundQuotient (num den : Nat) : Nat :=
  let q := num / den
  let r := num % den
  if 2 * r < den then q else if den < 2 * r then q + 1 else q + q % 2

def ofRatio (negative : Bool) (num den : Nat) : Binary64 :=
  let scaled := num * powerOfTwo 1074
  let exponent := Nat.log2 (scaled / den) - 52
  let mantissa := roundQuotient scaled (den * powerOfTwo exponent)
  let (mantissa, exponent) :=
    if mantissa = powerOfTwo 53 then (powerOfTwo 52, exponent + 1) else (mantissa, exponent)
  if 2045 < exponent then infinity negative else finite negative mantissa exponent

def ofDecimal (negative : Bool) (digits : List Nat) (power : Int) : Binary64 :=
  let significant := digits.dropWhile (· == 0)
  let top : Int := significant.length + power
  if significant.isEmpty || top < -400 then finite negative 0 0
  else if 400 < top then infinity negative
  else if 0 ≤ power then ofRatio negative (ofDigits significant * powerOfTen power.toNat) 1
  else ofRatio negative (ofDigits significant) (powerOfTen (-power).toNat)

def toInt? : Binary64 → Option Int
  | finite negative mantissa exponent =>
    let sign : Int := if negative then -1 else 1
    if 1074 ≤ exponent then some (sign * (mantissa * powerOfTwo (exponent - 1074) : Nat))
    else
      let unit := powerOfTwo (1074 - exponent)
      if mantissa % unit = 0 then some (sign * (mantissa / unit : Nat)) else none
  | _ => none

def isFinite : Binary64 → Bool
  | finite .. => true
  | _ => false

/-- Four times the value, in units of `2 ^ -1074`, with the bounds of what reads back as it:
lower bound, value, upper bound. Below a power of two the gap is half as wide. -/
def interval (mantissa exponent : Nat) : Nat × Nat × Nat :=
  let ulp := powerOfTwo exponent
  let value := 4 * mantissa * ulp
  let below := if mantissa = powerOfTwo 52 ∧ 0 < exponent then ulp else 2 * ulp
  (value - below, value, value + 2 * ulp)

/-- The multiple of `num / den` that lies nearest to the value among the two neighbours that read
back, if one does; a tie goes to the even multiple. All amounts are quarters of units. -/
def onGrid? (mantissa exponent num den : Nat) : Option Nat :=
  let (lo, v, hi) := interval mantissa exponent
  let readsBack (k : Nat) : Bool :=
    if mantissa % 2 = 0 then lo * den ≤ k * num && k * num ≤ hi * den
    else lo * den < k * num && k * num < hi * den
  let k := v * den / num
  let down := v * den - k * num
  let up := (k + 1) * num - v * den
  match readsBack k, readsBack (k + 1) with
  | true, true => some (if down < up then k else if up < down then k + 1 else k + k % 2)
  | true, false => some k
  | false, true => some (k + 1)
  | false, false => none

def leadingPlace (quarters : Nat) : Int :=
  let unit := 4 * powerOfTwo 1074
  if unit ≤ quarters then (Nat.toDigits 10 (quarters / unit)).length
  else
    -- the smallest positive number is above 10 ^ -324
    let shifted := quarters * powerOfTen 330 / unit
    ((Nat.toDigits 10 shifted).length : Int) - 330

def shortestFrom (mantissa exponent : Nat) (place : Int) : (count fuel : Nat) → Nat × Int
  | count, 0 => (0, place - count)
  | count, fuel + 1 =>
    let power : Int := place - count
    let unit := 4 * powerOfTwo 1074
    let hit :=
      if 0 ≤ power then onGrid? mantissa exponent (unit * powerOfTen power.toNat) 1
      else onGrid? mantissa exponent unit (powerOfTen (-power).toNat)
    match hit with
    | some k => (k, power)
    | none => shortestFrom mantissa exponent place (count + 1) fuel

def dropZeros : (fuel n : Nat) → (power : Int) → Nat × Int
  | 0, n, p => (n, p)
  | fuel + 1, n, p => if n ≠ 0 ∧ n % 10 = 0 then dropZeros fuel (n / 10) (p + 1) else (n, p)

def shortest (mantissa exponent : Nat) : Nat × Int :=
  let (n, p) := shortestFrom mantissa exponent
    (leadingPlace (4 * mantissa * powerOfTwo exponent)) 1 17
  dropZeros 17 n p

/-- How the digits of a positive number are laid out: positional from `0.0001` up to below
`10 ^ 16`, with at least one digit on either side of the point, else with an exponent of at least
two digits. -/
def layout (digits : Nat) (power : Int) : Text :=
  let zero : Code := '0'
  let ds := numeral digits
  let place : Int := ds.length + power
  if 16 < place ∨ place ≤ -4 then
    let e := place - 1
    let fraction : Text := if ds.length = 1 then [] else '.' :: ds.drop 1
    let sign : Code := if e < 0 then '-' else '+'
    let es := numeral e.natAbs
    ds.take 1 ++ fraction ++ "e" ++ [sign] ++ (if es.length = 1 then zero :: es else es)
  else if place ≤ 0 then "0." ++ List.replicate (-place).toNat zero ++ ds
  else if ds.length ≤ place.toNat then
    ds ++ List.replicate (place.toNat - ds.length) zero ++ ".0"
  else ds.take place.toNat ++ "." ++ ds.drop place.toNat

def text : Binary64 → Text
  | finite negative mantissa exponent =>
    let body : Text :=
      if mantissa = 0 then "0.0"
      else
        let (n, p) := shortest mantissa exponent
        layout n p
    if negative then '-' :: body else body
  | infinity negative => if negative then "-inf" else "inf"
  | nan => "nan"

def ofText? (t : Text) : Option Binary64 :=
  let t := t.filter (· ≠ Code.ofChar '_')
  let (negative, t) : Bool × Text := match t with
    | c :: r => if c = '-' then (true, r) else if c = '+' then (false, r) else (false, t)
    | [] => (false, [])
  if t = "inf" ∨ t = "Infinity" then some (infinity negative)
  else if t = "nan" ∨ t = "NaN" then some nan
  else
    let whole := t.takeWhile Code.isAsciiDigit
    let rest := t.dropWhile Code.isAsciiDigit
    let (fraction, rest) : Text × Text := match rest with
      | c :: r =>
        if c = '.' then (r.takeWhile Code.isAsciiDigit, r.dropWhile Code.isAsciiDigit)
        else ([], rest)
      | [] => ([], [])
    let exponent? : Option Int := match rest with
      | [] => some 0
      | c :: r =>
        if c = 'e' ∨ c = 'E' then
          let (minus, ds) : Bool × Text := match r with
            | s :: r' => if s = '-' then (true, r') else if s = '+' then (false, r') else (false, r)
            | [] => (false, [])
          if ds.isEmpty || !ds.all Code.isAsciiDigit then none
          else some (if minus then -(ofAsciiDigits ds : Int) else (ofAsciiDigits ds : Int))
        else none
    if whole.isEmpty && fraction.isEmpty then none
    else exponent?.map fun e =>
      ofDecimal negative ((whole ++ fraction).map fun c => c.val - 0x30)
        (e - (fraction.length : Int))

end Binary64

end WebLint
