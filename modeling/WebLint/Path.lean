import WebLint.Text.Lower

namespace WebLint

inductive Root
  | none
  | single
  | double
deriving DecidableEq

structure Path where
  root : Root
  parts : List Text
deriving DecidableEq

def slash : Code := '/'

def dot : Code := '.'

namespace Root

def ofText (t : Text) : Root :=
  match (t.takeWhile (· = slash)).length with
  | 0 => none
  | 2 => double
  | _ => single

def text : Root → Text
  | none => []
  | single => [slash]
  | double => [slash, slash]

end Root

namespace Path

/-- A component that names something of its own. -/
def isPart (t : Text) : Bool :=
  !t.isEmpty && t != [dot]

def ofText (t : Text) : Path :=
  ⟨.ofText t, (Text.splitOn slash t).filter isPart⟩

/-- The text of a path; the empty path is a dot. -/
def text (p : Path) : Text :=
  if p.root = .none ∧ p.parts = [] then [dot] else p.root.text ++ Text.join [slash] p.parts

def name (p : Path) : Text :=
  p.parts.getLast?.getD []

def parent (p : Path) : Path :=
  { p with parts := p.parts.dropLast }

def append (p q : Path) : Path :=
  if q.root = .none then { p with parts := p.parts ++ q.parts } else q

/-- What follows the last dot of a name, if something stands before and behind the dot. -/
def suffixOfName? (name : Text) : Option Text :=
  let suffix := (name.reverse.takeWhile (· ≠ dot)).reverse
  if suffix.isEmpty || name.length ≤ suffix.length + 1 then none else some suffix

def suffix? (p : Path) : Option Text :=
  suffixOfName? p.name

end Path

end WebLint
