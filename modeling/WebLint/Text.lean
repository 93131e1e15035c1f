namespace WebLint

/-- A code point, surrogates included. -/
structure Code where
  val : Nat
  val_lt : val < 0x110000
deriving DecidableEq

abbrev Text := List Code

theorem toNat_lt_limit (c : Char) : c.toNat < 0x110000 := by
  have h : c.val.toNat < 0xd800 ∨ (0xdfff < c.val.toNat ∧ c.val.toNat < 0x110000) := c.valid
  change c.val.toNat < _
  omega

namespace Code

theorem eq_of_val_eq {c d : Code} (h : c.val = d.val) : c = d := by
  cases c
  cases d
  congr

def ofChar (c : Char) : Code :=
  ⟨c.toNat, toNat_lt_limit c⟩

instance : Coe Char Code := ⟨ofChar⟩

instance : Inhabited Code := ⟨⟨0, by decide⟩⟩

/-- The code point with this number, or the replacement character beyond the limit. -/
def ofNat (n : Nat) : Code :=
  if h : n < 0x110000 then ⟨n, h⟩ else ⟨0xfffd, by decide⟩

def isSurrogate (c : Code) : Bool :=
  0xd800 ≤ c.val && c.val ≤ 0xdfff

def isAsciiDigit (c : Code) : Bool :=
  0x30 ≤ c.val && c.val ≤ 0x39

def isAsciiLetter (c : Code) : Bool :=
  (0x41 ≤ c.val && c.val ≤ 0x5a) || (0x61 ≤ c.val && c.val ≤ 0x7a)

def hexValue? (c : Code) : Option Nat :=
  if 0x30 ≤ c.val ∧ c.val ≤ 0x39 then some (c.val - 0x30)
  else if 0x41 ≤ c.val ∧ c.val ≤ 0x46 then some (c.val - 0x37)
  else if 0x61 ≤ c.val ∧ c.val ≤ 0x66 then some (c.val - 0x57)
  else none

def toChar? (c : Code) : Option Char :=
  if c.isSurrogate then none else some (Char.ofNat c.val)

@[simp] theorem ofNat_val (c : Code) : ofNat c.val = c := by
  simp [ofNat, c.val_lt]

theorem val_ofNat {n : Nat} (h : n < 0x110000) : (ofNat n).val = n := by
  simp [ofNat, h]

end Code

namespace Text

def ofString (s : String) : Text :=
  s.toList.map Code.ofChar

instance : Coe String Text := ⟨ofString⟩

/-- The string of a text. A surrogate, which no string holds, becomes a question mark. -/
def toString (t : Text) : String :=
  String.ofList (t.map fun c => c.toChar?.getD '?')

/-- Drop the longest end of a text that lies in a class. -/
def dropEndWhile (p : Code → Bool) (t : Text) : Text :=
  (t.reverse.dropWhile p).reverse

/-- Drop the longest start and the longest end that lie in a class. -/
def trimWhile (p : Code → Bool) (t : Text) : Text :=
  dropEndWhile p (t.dropWhile p)

def join (sep : Text) : List Text → Text
  | [] => []
  | [t] => t
  | t :: ts => t ++ sep ++ join sep ts

/-- The pieces between the occurrences of one code point; there is always at least one. -/
def splitOn (sep : Code) : Text → List Text
  | [] => [[]]
  | c :: r =>
    if c = sep then [] :: splitOn sep r
    else match splitOn sep r with
      | p :: ps => (c :: p) :: ps
      | [] => [[c]]

def dropPrefix? : (t p : Text) → Option Text
  | t, [] => some t
  | [], _ :: _ => none
  | c :: t, a :: p => if a = c then dropPrefix? t p else none

theorem dropPrefix?_eq_some_iff {t p r : Text} : dropPrefix? t p = some r ↔ t = p ++ r := by
  fun_induction dropPrefix? t p with
  | case1 t => simp
  | case2 => simp
  | case3 t a p ih => simpa using ih
  | case4 c t a p hac => simp [Ne.symm hac]

def startsWith (t p : Text) : Bool :=
  (dropPrefix? t p).isSome

def endsWithCode (t : Text) (c : Code) : Bool :=
  t.getLast? == some c

def replaceCode (t : Text) (c : Code) (by_ : Text) : Text :=
  t.flatMap fun d => if d = c then by_ else [d]

def cut? (sep : Code) : Text → Option (Text × Text)
  | [] => none
  | c :: r => if c = sep then some ([], r) else (cut? sep r).map fun (a, b) => (c :: a, b)

def le : Text → Text → Bool
  | [], _ => true
  | _ :: _, [] => false
  | a :: s, b :: t => a.val < b.val || (a.val == b.val && le s t)

end Text

end WebLint
