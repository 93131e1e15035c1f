import WebLint.Value

namespace WebLint.Json

def codeEscape (n : Nat) : Text :=
  "\\u" ++ hexPadded 4 n

def writeCode (c : Code) : Text :=
  if c = '"' ∨ c = '\\' then [ '\\', c]
  else if 0x20 ≤ c.val ∧ c.val < 0x7f then [c]
  else if c.val = 0xa then "\\n"
  else if c.val = 0xd then "\\r"
  else if c.val = 0x9 then "\\t"
  else if c.val = 0x8 then "\\b"
  else if c.val = 0xc then "\\f"
  else if c.val < 0x10000 then codeEscape c.val
  else codeEscape (0xd800 + (c.val - 0x10000) / 0x400) ++ codeEscape (0xdc00 + c.val % 0x400)

def writeString (t : Text) : Text :=
  "\"" ++ t.flatMap writeCode ++ "\""

def writeNumber : Binary64 → Text
  | .nan => "NaN"
  | .infinity negative => if negative then "-Infinity" else "Infinity"
  | x => x.text

mutual

/-- The JSON text of a value. A moment is written as messages show it. -/
def write : Value → Text
  | .null => "null"
  | .bool b => if b then "true" else "false"
  | .int n => integerText n
  | .float x => writeNumber x
  | .text t => writeString t
  | .moment m => writeString m.shown
  | .list items => "[" ++ writeItems items ++ "]"
  | .object fields => "\x7b" ++ writeFields fields ++ "\x7d"

def writeItems : List Value → Text
  | [] => []
  | [v] => write v
  | v :: vs => write v ++ ", " ++ writeItems vs

def writeFields : List (Text × Value) → Text
  | [] => []
  | [(k, v)] => writeString k ++ ": " ++ write v
  | (k, v) :: fs => writeString k ++ ": " ++ write v ++ ", " ++ writeFields fs

end

end WebLint.Json
