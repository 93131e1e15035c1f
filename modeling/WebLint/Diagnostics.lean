import WebLint.Text

namespace WebLint

structure Item where
  severity : Option Text := none
  line : Option Int := none
  column : Option Int := none
  reason : Option Text := none
  evidence : Option Text := none
deriving DecidableEq

structure Entry where
  path : Text
  items : List Item
deriving DecidableEq

/-- The entries in the order in which they were added. A path may occur more than once. -/
structure Report where
  entries : List Entry
deriving DecidableEq

namespace Report

def empty : Report :=
  ⟨[]⟩

def push (r : Report) (e : Entry) : Report :=
  ⟨r.entries ++ [e]⟩

def totalItems (r : Report) : Nat :=
  r.entries.foldr (fun e n => e.items.length + n) 0

end Report

end WebLint
