import WebLint.Number.Power
import WebLint.Text.Numeral
import WebLint.Text.Blank

namespace WebLint

/-- The most digits of an integer that is read from a text or written to one. -/
def digitLimit : Nat := 4300

def numeral (n : Nat) : Text :=
  (Nat.toDigits 10 n).map Code.ofChar

def integerText : Int → Text
  | .ofNat n => numeral n
  | .negSucc n => '-' :: numeral (n + 1)

def ofDigits (ds : List Nat) : Nat :=
  ds.foldl (fun n d => 10 * n + d) 0

def ofAsciiDigits (t : Text) : Nat :=
  ofDigits (t.map fun c => c.val - 0x30)

def exceedsDigitLimit (n : Int) : Bool :=
  powerOfTen digitLimit ≤ n.natAbs

def looseDigits? : Text → Option (List Nat)
  | [] => none
  | c :: r =>
    match c.decimalValue?, r with
    | none, _ => none
    | some d, [] => some [d]
    | some d, u :: r' =>
      if u = '_' then (looseDigits? r').map (d :: ·) else (looseDigits? (u :: r')).map (d :: ·)

/-- The integer that a text denotes, white space around it, a sign and low lines between its digits
allowed. -/
def looseInteger? (t : Text) : Option Int :=
  match t.trim with
  | [] => none
  | c :: r =>
    if c = '-' then (looseDigits? r).map fun ds => -(ofDigits ds : Int)
    else if c = '+' then (looseDigits? r).map fun ds => (ofDigits ds : Int)
    else (looseDigits? (c :: r)).map fun ds => (ofDigits ds : Int)

end WebLint
