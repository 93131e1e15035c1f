import WebLint.Text.Blank

namespace WebLint

def Code.isLineBreak (c : Code) : Bool :=
  (0xa ≤ c.val && c.val ≤ 0xd) || (0x1c ≤ c.val && c.val ≤ 0x1e) || c.val == 0x85 ||
    c.val == 0x2028 || c.val == 0x2029

def lineFeed : Code := '\n'

namespace Text

/-- The lines of a text without their breaks. A break at the very end opens no further line. -/
def lines : Text → List Text
  | [] => []
  | [c] => if c.isLineBreak then [[]] else [[c]]
  | c :: d :: r =>
    if c.val = 0xd ∧ d.val = 0xa then [] :: lines r
    else if c.isLineBreak then [] :: lines (d :: r)
    else match lines (d :: r) with
      | l :: ls => (c :: l) :: ls
      | [] => [[c]]

def universalNewlines : Text → Text
  | [] => []
  | [c] => if c.val = 0xd then [lineFeed] else [c]
  | c :: d :: r =>
    if c.val = 0xd then
      if d.val = 0xa then lineFeed :: universalNewlines r
      else lineFeed :: universalNewlines (d :: r)
    else c :: universalNewlines (d :: r)

def dropReturns : Text → Text
  | [] => []
  | [c] => [c]
  | c :: d :: r =>
    if c.val = 0xd ∧ d.val = 0xa then d :: dropReturns r else c :: dropReturns (d :: r)

end Text

end WebLint
