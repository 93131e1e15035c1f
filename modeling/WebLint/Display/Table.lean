import WebLint.Display.Wrap

namespace WebLint

/-- A table: the header, and the rows. -/
structure Table where
  header : Text × Text
  rows : List (Text × Text)

namespace Table

def lineWidth (t : Text) : Nat :=
  (t.lines.map Text.cells).foldl max 0

/-- The cells of the widest text of a column, up to what leaves room for its margins. -/
def columnWidth (texts : List Text) : Nat :=
  min ((texts.map lineWidth).foldl max 0) (screenWidth - 2)

def widths (t : Table) : Nat × Nat :=
  let first := columnWidth (t.header.1 :: t.rows.map (·.1))
  let second := columnWidth (t.header.2 :: t.rows.map (·.2))
  (min first (screenWidth - 5 - second), second)

def leftLines (width : Nat) (t : Text) : List Text :=
  (t.wrap width).map fun l => (l.crop width).padEnd width

def rightLines (width : Nat) (t : Text) : List Text :=
  (t.wrap width).map fun l => ((l.dropEndWhile Code.isBlank).abridge width).padStart width

def joinLines (w₁ w₂ : Nat) : List Text → List Text → List Text
  | [], [] => []
  | l :: ls, [] => line l (.spaces w₂) :: joinLines w₁ w₂ ls []
  | [], r :: rs => line (.spaces w₁) r :: joinLines w₁ w₂ [] rs
  | l :: ls, r :: rs => line l r :: joinLines w₁ w₂ ls rs
where
  line (l r : Text) : Text :=
    " " ++ l ++ "   " ++ r ++ " "

def rowLines (w₁ w₂ : Nat) (row : Text × Text) : List Text :=
  joinLines w₁ w₂ (leftLines w₁ row.1) (rightLines w₂ row.2)

def lines (t : Table) : List Text :=
  let (w₁, w₂) := t.widths
  rowLines w₁ w₂ t.header ++ [List.replicate (w₁ + w₂ + 5) dash] ++ t.rows.flatMap (rowLines w₁ w₂)
where
  dash : Code := '─'

def text (t : Table) : Text :=
  t.lines.flatMap (· ++ [lineFeed])

end Table

end WebLint
