import WebLint.Text.Utf8
import WebLint.Number.Decimal

namespace WebLint.Xml

abbrev Attribute := Text × Text

inductive Element
  | node (tag : Text) (attributes : List Attribute) (children : List Element)

namespace Element

def tag : Element → Text
  | node t _ _ => t

def attributes : Element → List Attribute
  | node _ as _ => as

def children : Element → List Element
  | node _ _ cs => cs

end Element

def reference (n : Nat) : Text :=
  "&#" ++ numeral n ++ ";"

/-- One code point of an attribute value. What has a meaning in XML is named, white space that a
reader would turn into blanks is referred to by number, and so are surrogates, which UTF-8 cannot
hold. -/
def escapeCode (c : Code) : Text :=
  if c = '&' then "&amp;"
  else if c = '<' then "&lt;"
  else if c = '>' then "&gt;"
  else if c = '"' then "&quot;"
  else if c = '\r' then "&#13;"
  else if c = '\n' then "&#10;"
  else if c = '\t' then "&#09;"
  else if c.isSurrogate then reference c.val
  else [c]

def escape (t : Text) : Text :=
  t.flatMap escapeCode

def writeAttribute (a : Attribute) : Text :=
  " " ++ a.1 ++ "=\"" ++ escape a.2 ++ "\""

/-- The start of a line at a level; no line is started without indentation. -/
def lineStart : Option Nat → Text
  | none => []
  | some level => "\n" ++ List.replicate (2 * level) (Code.ofNat 0x20)

mutual

def writeElement (level : Option Nat) : Element → Text
  | .node tag attributes [] => "<" ++ tag ++ attributes.flatMap writeAttribute ++ " />"
  | .node tag attributes (c :: cs) =>
    "<" ++ tag ++ attributes.flatMap writeAttribute ++ ">" ++
      writeElements (level.map (· + 1)) (c :: cs) ++ lineStart level ++ "</" ++ tag ++ ">"

/-- Elements, each on lines of its own if they are indented. -/
def writeElements (level : Option Nat) : List Element → Text
  | [] => []
  | e :: es => lineStart level ++ writeElement level e ++ writeElements level es

end

def declaration : Text :=
  "<?xml version='1.0' encoding='utf-8'?>\n"

def write (indented : Bool) (root : Element) : Text :=
  declaration ++ writeElement (if indented then some 0 else none) root

def octets (indented : Bool) (root : Element) : Octets :=
  Utf8.encode (write indented root)

end WebLint.Xml
