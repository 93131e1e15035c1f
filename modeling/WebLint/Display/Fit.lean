import WebLint.Display.Width

namespace WebLint

def screenWidth : Nat := 80

def Code.isSignal (c : Code) : Bool :=
  c.val == 0x7 || c.val == 0x8 || c.val == 0xb || c.val == 0xc || c.val == 0xd

/-- What an expression of one or more code points takes as a unit: its text and its cells. -/
abbrev Glyph := Text × Nat

namespace Text

def spaces (n : Nat) : Text :=
  List.replicate n (Code.ofNat 0x20)

def printed (t : Text) : Text :=
  t.filter fun c => !c.isSignal

/-- The glyphs of a text, the last one first. A code point without cells belongs to the glyph
before it, and so does what follows a joiner. -/
def glyphsFrom (last : Option Code) (done : List Glyph) : Text → List Glyph
  | [] => done
  | c :: r =>
    match done with
    | [] =>
      if c.val = 0x200d ∨ c.val = 0xfe0f then glyphsFrom last [([c], 0)] r
      else glyphsFrom (if c.cells = 0 then last else some c) [([c], c.cells)] r
    | (g, n) :: before =>
      if c.val = 0x200d then
        match r with
        | [] => (g ++ [c], n) :: before
        | d :: r' => glyphsFrom last ((g ++ [c, d], n) :: before) r'
      else if c.val = 0xfe0f then
        match last with
        | some l =>
          if emojiSelectable.has l.val then glyphsFrom none ((g ++ [c], n + 1) :: before) r
          else glyphsFrom last ((g ++ [c], n) :: before) r
        | none => glyphsFrom last ((g ++ [c], n) :: before) r
      else if c.cells = 0 then glyphsFrom last ((g ++ [c], n) :: before) r
      else glyphsFrom (some c) (([c], c.cells) :: done) r

def glyphs (t : Text) : List Glyph :=
  (glyphsFrom none [] t).reverse

def cutGlyphs (n : Nat) : List Glyph → Text
  | [] => spaces n
  | (g, k) :: gs => if n = 0 then [] else if n < k then spaces 1 else g ++ cutGlyphs (n - k) gs

def fit (n : Nat) (t : Text) : Text :=
  if t.cells = n then t else cutGlyphs n t.glyphs

def crop (n : Nat) (t : Text) : Text :=
  if n < t.cells then t.fit n else t

def abridge (n : Nat) (t : Text) : Text :=
  if n < t.cells then t.fit (n - 1) ++ "…" else t

def padEnd (n : Nat) (t : Text) : Text :=
  t ++ spaces (n - t.cells)

def padStart (n : Nat) (t : Text) : Text :=
  spaces (n - t.cells) ++ t

def tabWidth : Nat := 8

/-- The pieces of a line that end at tabulators, the last one perhaps without. Each tabulator
becomes a blank and as many further ones as lead to the next stop. -/
def expandPieces (column : Nat) : List Text → Text
  | [] => []
  | [p] => p
  | p :: ps =>
    let reached := column + (p ++ spaces 1).cells
    let more := (tabWidth - reached % tabWidth) % tabWidth
    p ++ spaces (1 + more) ++ expandPieces (reached + more) ps

def expandTabs (line : Text) : Text :=
  expandPieces 0 (splitOn '\t' line)

def printedLines (t : Text) : Text :=
  (splitOn (Code.ofNat 0xa) t.printed).flatMap fun l => expandTabs l ++ [Code.ofNat 0xa]

end Text

end WebLint
