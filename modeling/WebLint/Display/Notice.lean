import WebLint.Display.Markup
import WebLint.Settings.Basic

namespace WebLint

inductive Notice
  | info
  | success
  | warning
  | failure
deriving DecidableEq

def symbol (s : Text) (wanted : Bool) : Text :=
  if wanted then s else []

namespace Notice

def mark : Notice → Text
  | info => "ℹ️ "
  | success => "✅ "
  | warning => "⚠️ "
  | failure => "❌ "

def text (n : Notice) (emoji : Bool) (t : Text) : Text :=
  (symbol n.mark emoji ++ t).printedLines

end Notice

namespace Section

def dash : Code := '─'

def rule : Text :=
  List.replicate screenWidth dash

/-- A rule across the screen with a title in its middle. -/
def titledRule (title : Text) : Text :=
  let title := title.abridge (screenWidth - 4)
  let side := (screenWidth - title.cells) / 2
  let left := List.replicate (side - 1) dash
  let right := List.replicate (min (side + 1) (screenWidth - (side - 1) - title.cells)) dash
  Text.fit screenWidth (left ++ " " ++ title ++ " " ++ right)

def onOneLine (t : Text) : Text :=
  Text.expandTabs (t.replaceCode (Code.ofNat 0xa) " ")

/-- The heading of a section, below an empty line. The title is marked text, with emoji always. -/
def heading (color : Bool) (title : Text) : Except Fault Text := do
  if color then
    let line ← if title.isEmpty then pure rule
      else (fun t => titledRule (onOneLine t)) <$> Markup.render true title
    return "\n" ++ line ++ "\n"
  else
    return "\n" ++ (← Markup.render true ("--- " ++ title ++ " ---")).printedLines

end Section

end WebLint
