import WebLint.Display.Emoji
import WebLint.Display.Fit
import WebLint.Display.Style
import WebLint.Fault

namespace WebLint.Markup

/-- A piece of marked text. Positions count code points of the whole. -/
inductive Piece
  | plain (t : Text)
  | tag (position : Nat) (body : Text)
deriving DecidableEq

def backslash : Code := '\\'

def startsTag (c : Code) : Bool :=
  (0x61 ≤ c.val && c.val ≤ 0x7a) || c.val == 0x23 || c.val == 0x2f || c.val == 0x40

def tagBody? : Text → Option Text
  | [] => none
  | c :: r =>
    let body := r.takeWhile fun d => d.val ≠ 0x5b ∧ d.val ≠ 0x5d
    if startsTag c && (r.drop body.length).head? == some (Code.ofNat 0x5d) then some (c :: body)
    else none

def tagAt? (t : Text) : Option (Nat × Text) :=
  let n := (t.takeWhile (· = backslash)).length
  match t.drop n with
  | [] => none
  | c :: r => if c.val = 0x5b then (tagBody? r).map (n, ·) else none

/-- The pieces that a tag with backslashes in front of it stands for. Two backslashes stand for one,
and a single one takes the meaning from the tag. -/
def tagPieces (position backslashes : Nat) (body : Text) : List Piece :=
  let half := backslashes / 2
  let shown := if half = 0 then [] else [Piece.plain (List.replicate half backslash)]
  if backslashes % 2 = 1 then shown ++ [.plain ("[" ++ body ++ "]")]
  else shown ++ [.tag (position + 2 * half) body]

def gathered (pending : Text) : List Piece :=
  if pending.isEmpty then [] else [.plain pending.reverse]

def piecesFrom : (skip position : Nat) → (pending : Text) → Text → List Piece
  | _, _, pending, [] => gathered pending
  | skip + 1, position, pending, _ :: r => piecesFrom skip (position + 1) pending r
  | 0, position, pending, c :: r =>
    match tagAt? (c :: r) with
    | none => piecesFrom 0 (position + 1) (c :: pending) r
    | some (n, body) =>
      gathered pending ++ tagPieces position n body ++
        piecesFrom (n + body.length + 1) (position + 1) [] r

def unescape : Text → Text
  | [] => []
  | [c] => [c]
  | c :: d :: r =>
    if c = backslash ∧ d.val = 0x5b then d :: unescape r else c :: unescape (d :: r)

def plainPiece (emoji : Bool) (t : Text) : Text :=
  if emoji then Emoji.replaced (unescape t) else unescape t

def plainText (emoji : Bool) : (opened : List Text) → List Piece → Except Fault Text
  | _, [] => .ok []
  | opened, .plain t :: ps => (plainText emoji opened ps).map (plainPiece emoji t ++ ·)
  | opened, .tag position body :: ps =>
    let name := body.takeWhile fun c => c.val ≠ 0x3d
    match name with
    | [] => plainText emoji opened ps
    | c :: r =>
      if c.val = 0x2f then
        if Text.isBlank r then
          match opened with
          | [] => .error (.nothingToClose position)
          | _ :: rest => plainText emoji rest ps
        else
          let style := Style.normal (Text.trim r)
          if opened.contains style then plainText emoji (opened.erase style) ps
          else .error (.unopenedTag ("[" ++ body ++ "]") position)
      else plainText emoji (Style.normal name :: opened) ps

def render (emoji : Bool) (t : Text) : Except Fault Text :=
  Text.printed <$> plainText emoji [] (piecesFrom 0 0 [] t)

end WebLint.Markup
