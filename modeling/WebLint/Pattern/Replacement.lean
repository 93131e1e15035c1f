import WebLint.Pattern.Matcher

namespace WebLint.Pattern

inductive Piece
  | literal (t : Text)
  | group (n : Nat)
deriving DecidableEq

open Reader

def reference (c : Compiled) (n back : Nat) : Reader Piece := do
  if c.groups.length < n then complain (.unknownReference n) back
  return .group n

def angleReference (c : Compiled) : Reader Piece := do
  if !(← accept '<') then complain .missingAngle 0
  let n ← name '>' "group name"
  if isIdentifier n then
    match c.names.lookup n with
    | some group => reference c group (n.length + 1)
    | none => throw ⟨.noSuchGroup n, none⟩
  else match looseInteger? n with
  | some (.ofNat group) => reference c group (n.length + 1)
  | _ => complain (.badGroupName n) (n.length + 1)

def zeroEscape : Reader Piece := do
  return .literal [Code.ofNat (ofOctal (← upTo isOctal 2) % 0x100)]

/-- Three octal digits, or a reference of one or two digits; the first, no zero, is read
already. -/
def numberReference (c : Compiled) (first : Code) : Reader Piece := do
  let second ← upTo Code.isAsciiDigit 1
  let third ← if isOctal first && !second.isEmpty && second.all isOctal then upTo isOctal 1
    else pure []
  let digits := first :: second ++ third
  if !third.isEmpty then
    let escape : Text := '\\' :: digits
    if 0xff < ofOctal digits then complain (.octalOutOfRange escape) escape.length
    return .literal [Code.ofNat (ofOctal digits)]
  reference c (ofAsciiDigits digits) digits.length

def piece (c : Compiled) (t : Text) : Reader Piece := do
  match t with
  | [_, e] =>
    if e = 'g' then angleReference c
    else if e = '0' then zeroEscape
    else if e.isAsciiDigit then numberReference c e
    else if e = 'b' then return .literal [Code.ofNat 0x8]
    else match controlEscape? e with
    | some d => return .literal [d]
    | none =>
      if e.isAsciiLetter then complain (.badEscape t) 2
      return .literal t
  | _ => return .literal t

def pieces (c : Compiled) : (fuel : Nat) → Reader (List Piece)
  | 0 => return []
  | fuel + 1 => do
    match ← next with
    | none => return []
    | some t => return (← piece c t) :: (← pieces c fuel)

def readReplacement (c : Compiled) (t : Text) : Except Complaint (List Piece) := do
  let (rest, dangling) := tokens 0 t
  if rest.isEmpty && dangling then throw ⟨.danglingBackslash, some 0⟩
  let (ps, _) ← (pieces c (rest.length + 1)).run
    { rest := rest, stop := t.length, dangling := dangling }
  return ps

def Piece.expand (whole : Text) (start stop : Nat) (s : Captures) : Piece → Text
  | literal t => t
  | group n =>
    if n = 0 then (whole.drop start).take (stop - start)
    else (groupText? whole s n).getD []

def replaceMatches (whole : Text) (ps : List Piece) (from_ : Nat) :
    List (Place × Found) → Text
  | [] => whole.drop from_
  | (start, (stop, s)) :: ms =>
    (whole.drop from_).take (start.offset - from_) ++
      ps.flatMap (Piece.expand whole start.offset stop.offset s) ++
      replaceMatches whole ps stop.offset ms

/-- Replace every match of a pattern. The replacement is read first, whether there is a match or
not. -/
def replaceAll (c : Compiled) (replacement t : Text) : Except Complaint Text := do
  let ps ← readReplacement c replacement
  return replaceMatches t ps 0 (c.allMatches t)

end WebLint.Pattern
