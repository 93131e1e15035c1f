import WebLint.Text.Ranges

namespace WebLint

def blankRanges : Ranges := [
  (0x9, 0xd), (0x1c, 0x20), (0x85, 0x85), (0xa0, 0xa0), (0x1680, 0x1680), (0x2000, 0x200a),
  (0x2028, 0x2029), (0x202f, 0x202f), (0x205f, 0x205f), (0x3000, 0x3000)]

def Code.isBlank (c : Code) : Bool :=
  blankRanges.has c.val

def Code.isWhiteSpace (c : Code) : Bool :=
  c.isBlank && !(0x1c ≤ c.val && c.val ≤ 0x1f)

namespace Text

def trimEnd (t : Text) : Text :=
  t.dropEndWhile Code.isBlank

def trim (t : Text) : Text :=
  t.trimWhile Code.isBlank

def isBlank (t : Text) : Bool :=
  t.all Code.isBlank

/-- The maximal runs of code points that are not white space. -/
def words : Text → List Text
  | [] => []
  | c :: r =>
    if c.isBlank then words r
    else match r, words r with
      | [], _ => [[c]]
      | d :: _, w :: ws => if d.isBlank then [c] :: w :: ws else (c :: w) :: ws
      | _ :: _, [] => [[c]]

end Text

end WebLint
