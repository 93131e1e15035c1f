import WebLint.Display.EmojiNames
import WebLint.Text.Blank
import WebLint.Text.Lower

namespace WebLint.Emoji

def ofName? (name : Text) : Option Text :=
  let name := name.lower
  let entry? := tables.findSome? fun t => t.find? fun e => Text.ofString e.1 == name
  entry?.map fun e => e.2.map Code.ofNat

structure Name where
  name : Text
  selector : Text
  length : Nat

def colon : Code := ':'

def codeEnds : List (Text × Text) := [
  ("-emoji:", [Code.ofNat 0xfe0f]), ("-text:", [Code.ofNat 0xfe0e]), (":", [])]

/-- The code that goes on with a text, when the colon in front of it and the start of its name, in
reverse, were read. There is no blank in a code. -/
def nameAt? : (start : Text) → Text → Option Name
  | _, [] => none
  | start, c :: r =>
    match codeEnds.find? fun e => Text.startsWith (c :: r) e.1 with
    | some (ending, selector) =>
      some ⟨start.reverse, selector, start.length + ending.length⟩
    | none => if c.isBlank then none else nameAt? (c :: start) r

def replacedFrom : (skip : Nat) → Text → Text
  | _, [] => []
  | skip + 1, _ :: r => replacedFrom skip r
  | 0, c :: r =>
    match if c = colon then nameAt? [] r else none with
    | none => c :: replacedFrom 0 r
    | some n =>
      let shown := match ofName? n.name with
        | some e => e ++ n.selector
        | none => c :: r.take n.length
      shown ++ replacedFrom n.length r

def replaced (t : Text) : Text :=
  replacedFrom 0 t

end WebLint.Emoji
