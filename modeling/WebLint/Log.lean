import WebLint.Number.Decimal

namespace WebLint

/-- A line of the log. -/
inductive Event
  | adapted (count : Nat) (tool path : Text)
  | running (index : Nat) (name uri : Text)
  | produced (index : Nat) (name : Text) (length : Nat)
deriving DecidableEq

def Event.message : Event → Text
  | adapted count tool path =>
    "adapted " ++ numeral count ++ " " ++ tool ++ " item(s) for " ++ path
  | running i name uri => "running stage #" ++ numeral i ++ " (" ++ name ++ ") on " ++ uri
  | produced i name n =>
    "stage #" ++ numeral i ++ " (" ++ name ++ ") produced " ++ numeral n ++ " characters"

end WebLint
