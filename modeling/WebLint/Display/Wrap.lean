import WebLint.Display.Fit
import WebLint.Text.Lines

namespace WebLint.Text

/-- The words of a text, each with the white space behind it, the first also with that in front. A
text of white space alone has none. -/
def spacedWords (t : Text) : List Text :=
  let start := t.takeWhile Code.isBlank
  match (split t.length (t.drop start.length)) with
  | [] => []
  | w :: ws => (start ++ w) :: ws
where
  split : (fuel : Nat) → Text → List Text
    | 0, _ => []
    | _ + 1, [] => []
    | fuel + 1, t =>
      let word := t.takeWhile (!·.isBlank)
      let blanks := (t.drop word.length).takeWhile Code.isBlank
      (word ++ blanks) :: split fuel (t.drop (word.length + blanks.length))

def foldGlyphs (width : Nat) (done : Text) (cells : Nat) : List Glyph → List Text
  | [] => if cells = 0 then [] else [done]
  | (g, k) :: gs =>
    if width < cells + k then done :: foldGlyphs width g k gs
    else foldGlyphs width (done ++ g) (cells + k) gs

def fold (width : Nat) (t : Text) : List Text :=
  foldGlyphs width [] 0 t.glyphs

def fillLines (width : Nat) (line : Text) (cells : Nat) : List Text → List Text
  | [] => [line]
  | w :: ws =>
    let bare := (w.dropEndWhile Code.isBlank).cells
    if cells + bare ≤ width then fillLines width (line ++ w) (cells + w.cells) ws
    else if width < bare then
      let parts := w.fold width
      let before := if line.isEmpty then [] else [line]
      let last := parts.getLast?.getD []
      before ++ parts.dropLast ++ fillLines width last last.cells ws
    else if cells ≠ 0 ∧ line ≠ [] then line :: fillLines width w w.cells ws
    else fillLines width (line ++ w) cells ws

def dropExcess (width : Nat) (line : Text) : Text :=
  let blanks := (line.reverse.takeWhile Code.isBlank).length
  line.take (line.length - min blanks (line.length - width))

def wrapLine (width : Nat) (line : Text) : List Text :=
  let line := line.expandTabs
  let parts := match line.spacedWords with
    | [] => [line]
    | ws => fillLines width [] 0 ws
  parts.map (dropExcess width)

def wrap (width : Nat) (t : Text) : List Text :=
  (splitOn lineFeed t).flatMap (wrapLine width)

end WebLint.Text
