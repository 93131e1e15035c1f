import WebLint.Fault
import WebLint.Log

namespace WebLint

/-- How an act ended, what the memory holds then, and what was logged on the way. -/
structure Outcome (σ α : Type) where
  result : Except Fault α
  memory : σ
  log : List Event

def Act (σ α : Type) := σ → Outcome σ α

namespace Act

variable {σ α β : Type}

def done (a : α) : Act σ α := fun s =>
  ⟨.ok a, s, []⟩

/-- One act after the other; the second is skipped if the first stops with a fault. -/
def andThen (x : Act σ α) (f : α → Act σ β) : Act σ β := fun s =>
  match x s with
  | ⟨.error e, s, log⟩ => ⟨.error e, s, log⟩
  | ⟨.ok a, s, log⟩ =>
    let y := f a s
    ⟨y.result, y.memory, log ++ y.log⟩

instance : Monad (Act σ) where
  pure := done
  bind := andThen

def fail (f : Fault) : Act σ α := fun s =>
  ⟨.error f, s, []⟩

def note (e : Event) : Act σ Unit := fun s =>
  ⟨.ok (), s, [e]⟩

def ofResult : Except Fault α → Act σ α
  | .ok a => done a
  | .error f => fail f

def ofStep (f : σ → Except Fault α × σ) : Act σ α := fun s =>
  ⟨(f s).1, (f s).2, []⟩

def mapFault (f : Fault → Fault) (x : Act σ α) : Act σ α := fun s =>
  let y := x s
  { y with result := y.result.mapError f }

end Act

end WebLint
