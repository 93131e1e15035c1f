import WebLint.Text.Lines
import WebLint.Xml.Element

namespace WebLint.Xml

def isSpace (c : Code) : Bool :=
  c.val == 0x20 || c.val == 0x9 || c.val == 0xa || c.val == 0xd

def isNameCode (c : Code) : Bool :=
  c.isAsciiLetter || c.isAsciiDigit || c = '-' || c = '_' || c = '.' || c = ':'

def namedCodes : List (Text × Code) :=
  [("amp", '&'), ("lt", '<'), ("gt", '>'), ("quot", '"'), ("apos", '\'')]

def numberedCode? : Text → Option Code
  | c :: d :: r =>
    let n := ofAsciiDigits (d :: r)
    if c = '#' ∧ (d :: r).all Code.isAsciiDigit ∧ n < 0x110000 then some (Code.ofNat n) else none
  | _ => none

def referenced? (name : Text) : Option Code :=
  (namedCodes.lookup name).or (numberedCode? name)

structure Head where
  tag : Text
  attributes : List Attribute := []

structure Pending where
  head : Head
  key : Text
  quote : Code
  value : Text := []

inductive Mode
  | content
  | markup
  | tag (name : Text)
  | space (h : Head)
  | key (h : Head) (name : Text)
  | equals (h : Head) (key : Text)
  | value (p : Pending)
  | reference (p : Pending) (name : Text)
  | unspaced (h : Head)
  | emptyEnd (h : Head)
  | endTag (name : Text)

/-- An open element: its start tag, and the elements that stand before it in its parent. -/
structure Frame where
  head : Head
  before : List Element

/-- The machine: its mode, the elements that are complete in the innermost open one, and the open
ones from the inside to the outside. -/
structure State where
  mode : Mode := .content
  done : List Element := []
  opened : List Frame := []

namespace State

def push (s : State) (e : Element) : State :=
  { s with mode := .content, done := s.done ++ [e] }

def openElement (s : State) (h : Head) : State :=
  ⟨.content, [], ⟨h, s.done⟩ :: s.opened⟩

def closeElement (s : State) (name : Text) : Option State :=
  match s.opened with
  | [] => none
  | f :: fs =>
    if name = f.head.tag then
      some (State.push ⟨.content, f.before, fs⟩ (.node name f.head.attributes s.done))
    else none

def stepTag (s : State) (h : Head) (c : Code) : Option State :=
  if isSpace c then some { s with mode := .space h }
  else if c = '/' then some { s with mode := .emptyEnd h }
  else if c = '>' then some (s.openElement h)
  else none

/-- In an attribute value. White space is read as a blank; no attribute may occur twice. -/
def stepValue (s : State) (p : Pending) (c : Code) : Option State :=
  if c = p.quote then
    if p.key ∈ p.head.attributes.map (·.1) then none
    else some { s with
      mode := .unspaced { p.head with attributes := p.head.attributes ++ [(p.key, p.value)] } }
  else if c = '&' then some { s with mode := .reference p [] }
  else if c = '<' then none
  else
    let d : Code := if isSpace c then ' ' else c
    some { s with mode := .value { p with value := p.value ++ [d] } }

def step (s : State) (c : Code) : Option State :=
  match s.mode with
  | .content =>
    if isSpace c then some s else if c = '<' then some { s with mode := .markup } else none
  | .markup =>
    if c = '/' then some { s with mode := .endTag [] }
    else if isNameCode c then some { s with mode := .tag [c] }
    else none
  | .tag name =>
    if isNameCode c then some { s with mode := .tag (name ++ [c]) } else s.stepTag ⟨name, []⟩ c
  | .space h => if isNameCode c then some { s with mode := .key h [c] } else s.stepTag h c
  | .key h name =>
    if isNameCode c then some { s with mode := .key h (name ++ [c]) }
    else if c = '=' then some { s with mode := .equals h name }
    else none
  | .equals h key =>
    if c = '"' ∨ c = '\'' then some { s with mode := .value ⟨h, key, c, []⟩ } else none
  | .value p => s.stepValue p c
  | .reference p name =>
    if c = ';' then
      (referenced? name).map fun d => { s with mode := .value { p with value := p.value ++ [d] } }
    else some { s with mode := .reference p (name ++ [c]) }
  | .unspaced h => s.stepTag h c
  | .emptyEnd h => if c = '>' then some (s.push (.node h.tag h.attributes [])) else none
  | .endTag name =>
    if c = '>' then s.closeElement name
    else if isNameCode c then some { s with mode := .endTag (name ++ [c]) }
    else none

def run (s : State) (t : Text) : Option State :=
  t.foldlM step s

def root? (s : State) : Option Element :=
  match s.mode, s.done, s.opened with
  | .content, [e], [] => some e
  | _, _, _ => none

end State

def declared? (t : Text) : Option Text :=
  (t.dropPrefix? "<?xml").bind ending?
where
  ending? : Text → Option Text
    | c :: d :: r => if c = '?' ∧ d = '>' then some r else ending? (d :: r)
    | _ => none

def readText? (t : Text) : Option Element :=
  (declared? t).bind fun r => (State.run {} r).bind State.root?

/-- The root element of the document that octets hold. Ends of lines are read as line feeds. -/
def read? (bs : Octets) : Option Element :=
  match Utf8.decode bs with
  | .ok t => readText? t.universalNewlines
  | .error _ => none

end WebLint.Xml
