import WebLint.Text.Printable

namespace WebLint

def hexDigit (n : Nat) : Code :=
  Code.ofNat (if n < 10 then 0x30 + n else 0x57 + n)

/-- The last `width` hexadecimal digits of `n`. -/
def hexPadded : (width n : Nat) → Text
  | 0, _ => []
  | w + 1, n => hexPadded w (n / 16) ++ [hexDigit (n % 16)]

def Code.quotedWith (quote c : Code) : Text :=
  if c = quote ∨ c = '\\' then [ '\\', c]
  else if c = '\t' then "\\t"
  else if c = '\n' then "\\n"
  else if c = '\r' then "\\r"
  else if c.isPrintable then [c]
  else if c.val < 0x100 then "\\x" ++ hexPadded 2 c.val
  else if c.val < 0x10000 then "\\u" ++ hexPadded 4 c.val
  else "\\U" ++ hexPadded 8 c.val

def Text.quote (t : Text) : Code :=
  if t.contains '\'' && !t.contains '"' then '"' else '\''

def Text.quoted (t : Text) : Text :=
  t.quote :: t.flatMap (Code.quotedWith t.quote) ++ [t.quote]

end WebLint
