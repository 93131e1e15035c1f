import WebLint.Text

namespace WebLint

/-- Ascending ranges of code point numbers, both ends included. -/
abbrev Ranges := List (Nat × Nat)

namespace Ranges

def has : Ranges → Nat → Bool
  | [], _ => false
  | (a, b) :: rs, n => if n < a then false else n ≤ b || has rs n

def find? : Ranges → Nat → Option (Nat × Nat)
  | [], _ => none
  | (a, b) :: rs, n => if n < a then none else if n ≤ b then some (a, b) else find? rs n

end Ranges

end WebLint
