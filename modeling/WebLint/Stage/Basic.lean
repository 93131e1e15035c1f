import WebLint.Act
import WebLint.Resource

namespace WebLint

structure Stage (σ : Type) where
  name : Text
  preparation : Option (Act σ Unit) := none
  process : Resource → Text → Act σ Value

structure Slot (σ α : Type) where
  get : σ → α
  set : α → σ → σ

namespace Stage

variable {σ : Type}

def knownName (declared : Value) (kind : Text) : Text :=
  match declared with
  | .text [] => kind
  | .text t => t
  | _ => kind

def prepare (s : Stage σ) : Act σ Unit :=
  s.preparation.getD (.done ())

def invoke (s : Stage σ) (r : Resource) (t : Text) : Act σ Value := do
  s.prepare
  s.process r t

/-- A stage that works on some types of resources only and, if it makes texts smaller, on those
only that are to be made smaller. It passes all others through. -/
def gated (name : Text) (minimizing : Bool) (supports : ResourceType → Bool)
    (transform : ResourceType → Text → Act σ Text) (preparation : Option (Act σ Unit) := none) :
    Stage σ where
  name := name
  preparation := preparation
  process r t :=
    if supports r.type && (!minimizing || r.minimize) then .text <$> transform r.type t
    else .done (.text t)

end Stage

end WebLint
