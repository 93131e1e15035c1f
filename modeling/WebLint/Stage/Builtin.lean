import WebLint.Stage.Basic
import WebLint.Stage.Comments
import WebLint.Text.Lower

namespace WebLint

namespace Text

def trimLines (t : Text) : Text :=
  join [lineFeed] ((t.lines.map trimEnd).filter (!·.isEmpty))

def collapseBlanks : Text → Text
  | [] => []
  | c :: r =>
    if c.isBlank then
      match r with
      | [] => " "
      | d :: _ => if d.isBlank then collapseBlanks r else Code.ofNat 0x20 :: collapseBlanks r
    else c :: collapseBlanks r

/-- One blank in place of each run of white space, and none at either end. -/
def collapseWhiteSpace (t : Text) : Text :=
  t.collapseBlanks.trim

/-- A semicolon at the end of a text that is not blank, unless there is one; white space behind it
is dropped. -/
def endWithSemicolon (t : Text) : Text :=
  let body := t.trimEnd
  if body.isEmpty || body.endsWithCode semicolon then t else body ++ [semicolon]
where
  semicolon : Code := ';'

end Text

inductive Builtin
  | stripComments
  | trimLines
  | collapseWhiteSpace
  | appendSemicolon
deriving DecidableEq

namespace Builtin

def all : List Builtin :=
  [collapseWhiteSpace, appendSemicolon, stripComments, trimLines]

def name : Builtin → Text
  | stripComments => "strip-comments"
  | trimLines => "trim-lines"
  | collapseWhiteSpace => "collapse-whitespace"
  | appendSemicolon => "semicolon-append"

def minimizing : Builtin → Bool
  | stripComments => true
  | trimLines => false
  | collapseWhiteSpace => true
  | appendSemicolon => false

/-- The types of resources that a stage works on. Lines of scripts are not joined, since a line
comment would swallow what follows. -/
def supported : Builtin → List ResourceType
  | stripComments => [.css, .js]
  | trimLines => [.css, .js]
  | collapseWhiteSpace => [.css]
  | appendSemicolon => [.js]

def transform (b : Builtin) (type : ResourceType) (t : Text) : Text :=
  match b with
  | stripComments => t.withoutComments type
  | trimLines => t.trimLines
  | collapseWhiteSpace => t.collapseWhiteSpace
  | appendSemicolon => t.endWithSemicolon

def stage {σ : Type} (b : Builtin) : Stage σ :=
  .gated b.name b.minimizing b.supported.contains fun type t => .done (b.transform type t)

def ofName? (t : Text) : Option Builtin :=
  all.find? fun b => b.name == t.trim.lower

def ofValue (v : Value) : Except Fault Builtin :=
  let named? : Option Builtin := match v with
    | .text t => ofName? t
    | _ => none
  match named? with
  | some b => .ok b
  | none => .error (.quoting v (.unknownStage v))

end Builtin

end WebLint
