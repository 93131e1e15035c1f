import WebLint.Stage.Basic

namespace WebLint

/-- What a recording stage remembers: the texts that it saw, and how often it was prepared. -/
structure Recording where
  seen : List Text := []
  prepared : Nat := 0
deriving DecidableEq

namespace Stage

variable {σ : Type}

def ofFunction (name : Text) (f : Text → Text) : Stage σ where
  name := name
  process _ t := .done (.text (f t))

def constant (name : Text) (v : Value) : Stage σ where
  name := name
  process _ _ := .done v

def failing (name : Text) (f : Resource → Fault) : Stage σ where
  name := name
  process r _ := .fail (f r)

def failingFirst (name : Text) (f : Fault) : Stage σ where
  name := name
  preparation := some (.fail f)
  process _ t := .done (.text t)

def recording (name : Text) (slot : Slot σ Recording) : Stage σ where
  name := name
  preparation := some fun s =>
    let r := slot.get s
    ⟨.ok (), slot.set { r with prepared := r.prepared + 1 } s, []⟩
  process _ t := fun s =>
    let r := slot.get s
    ⟨.ok (.text t), slot.set { r with seen := r.seen ++ [t] } s, []⟩

end Stage

end WebLint
