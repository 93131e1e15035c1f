import WebLint.Text

namespace WebLint

inductive ResourceType
  | css
  | js
deriving DecidableEq

/-- The identity of a resource and how it is to be treated. -/
structure Resource where
  uri : Text
  type : ResourceType
  minimize : Bool := true
deriving DecidableEq

namespace ResourceType

def name : ResourceType → Text
  | css => "css"
  | js => "js"

def ofName? (t : Text) : Option ResourceType :=
  [css, js].find? fun k => k.name == t

end ResourceType

end WebLint
