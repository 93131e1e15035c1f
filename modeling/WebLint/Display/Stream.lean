import WebLint.Text.Lines

namespace WebLint

/-- An output stream: none at all, one that is closed, or one that may be a terminal. -/
inductive OutputStream
  | absent
  | closed
  | ready (terminal : Bool)
deriving DecidableEq

namespace Text

def escape : Code := Code.ofNat 0x1b

def isParameter (c : Code) : Bool :=
  c.isAsciiDigit || c == ';' || c == '?'

def parametersLength? : Text → Option Nat
  | [] => none
  | c :: r =>
    if isParameter c then (parametersLength? r).map (· + 1)
    else if c.isAsciiLetter then some 1
    else none

def controlLength? : Text → Option Nat
  | c :: d :: r => if c = escape ∧ d = '[' then (parametersLength? r).map (· + 2) else none
  | _ => none

def withoutControlsFrom : (skip : Nat) → Text → Text
  | _, [] => []
  | skip + 1, _ :: r => withoutControlsFrom skip r
  | 0, c :: r =>
    match controlLength? (c :: r) with
    | some n => withoutControlsFrom (n - 1) r
    | none => c :: withoutControlsFrom 0 r

/-- A text without the sequences that control a terminal. What comes together when they are gone is
not looked at again. -/
def withoutControls (t : Text) : Text :=
  withoutControlsFrom 0 t

end Text

namespace OutputStream

def isTerminal : OutputStream → Bool
  | ready terminal => terminal
  | _ => false

def echo (s : OutputStream) (t : Text) : Text :=
  let line := t ++ [lineFeed]
  if s.isTerminal then line else line.withoutControls

end OutputStream

end WebLint
