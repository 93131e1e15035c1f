import WebLint.Stage.Builtin

namespace WebLint

structure Chain (σ : Type) where
  stages : List (Stage σ)

/-- What is handed in as a stage: a stage, or some other value by mistake. -/
inductive Member (σ : Type)
  | stage (s : Stage σ)
  | other (v : Value)

def Member.name {σ : Type} : Member σ → Text
  | stage s => s.name
  | other v => v.kindName

namespace Chain

variable {σ : Type}

def membersFrom : (index : Nat) → List (Member σ) → Except Fault (List (Stage σ))
  | _, [] => .ok []
  | i, .stage s :: ms => (membersFrom (i + 1) ms).map (s :: ·)
  | i, .other v :: _ => .error (.quoting v (.notStage i v))

def make : Option (List (Member σ)) → Except Fault (Chain σ)
  | none => .error .stageListRequired
  | some ms => Chain.mk <$> membersFrom 0 ms

/-- The fault of a stage at its place in the chain. A stage that says itself where it failed is
taken at its word. -/
def locate (index : Nat) (name uri : Text) : Fault → Fault
  | .stage i n u why => .stage i n u why
  | f => .stage index name uri (.raised f)

def textOf (index : Nat) (name uri : Text) : Value → Except Fault Text
  | .text t => .ok t
  | v => .error (.stage index name uri (.gave v.kindName))

def runFrom (r : Resource) : (index : Nat) → List (Stage σ) → Text → Act σ Text
  | _, [], t => return t
  | i, s :: ss, t => do
    Act.note (.running i s.name r.uri)
    let given ← Act.mapFault (locate i s.name r.uri) (s.invoke r t)
    let produced ← Act.ofResult (textOf i s.name r.uri given)
    Act.note (.produced i s.name produced.length)
    runFrom r (i + 1) ss produced

def run (c : Chain σ) (r : Resource) (t : Text) : Act σ Text :=
  runFrom r 0 c.stages t

def process (c : Chain σ) : Option Resource → Option Text → Act σ Text
  | none, _ => .fail .resourceRequired
  | _, none => .fail .textRequired
  | some r, some t => c.run r t

def stage (c : Chain σ) : Stage σ where
  name := "chain"
  process r t := .text <$> c.run r t

def ofNames : Option (List Value) → Except Fault (Chain σ)
  | none => .error .stageNamesRequired
  | some names => do
    let builtins ← names.mapM Builtin.ofValue
    return ⟨builtins.map Builtin.stage⟩

end Chain

end WebLint
