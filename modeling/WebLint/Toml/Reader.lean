import WebLint.Toml.Scalar
import WebLint.Text.Lines

namespace WebLint.Toml

open Reader

abbrev Key := List Text

/-- Change the table behind a key; tables on the way are made where there is nothing. If
`throughLists`, a list on the way stands for its last element. None if there is another value on the
way. -/
def changeTable (throughLists : Bool) (change : List Field → Option (List Field)) :
    Key → List Field → Option (List Field)
  | [], fs => change fs
  | k :: ks, fs => do
    match fieldOf? fs k with
    | none => return putField fs k (.object (← changeTable throughLists change ks []))
    | some (.object inner) =>
      return putField fs k (.object (← changeTable throughLists change ks inner))
    | some (.list items) =>
      match throughLists, items.getLast? with
      | true, some (.object inner) =>
        let last := Value.object (← changeTable throughLists change ks inner)
        return putField fs k (.list (items.dropLast ++ [last]))
      | _, _ => none
    | some _ => none

def addField (name : Text) (v : Value) (fs : List Field) : Option (List Field) :=
  match fieldOf? fs name with
  | none => some (fs ++ [(name, v)])
  | some _ => none

def addValue (throughLists : Bool) (key : Key) (v : Value) (fs : List Field) :
    Option (List Field) :=
  match key.getLast? with
  | none => none
  | some name => changeTable throughLists (addField name v) key.dropLast fs

def addElement (name : Text) (fs : List Field) : Option (List Field) :=
  match fieldOf? fs name with
  | none => some (fs ++ [(name, .list [.object []])])
  | some (.list items) => some (putField fs name (.list (items ++ [.object []])))
  | some _ => none

/-- What was read of a document: its tables, the table that is open, and which tables may not be
declared (any more) or may not be changed. Those that the keys of an open table made are not to be
declared once it is closed. -/
structure Draft where
  fields : List Field := []
  header : Key := []
  declared : List Key := []
  pending : List Key := []
  frozen : List Key := []

namespace Draft

def isFrozen (d : Draft) (key : Key) : Bool :=
  d.frozen.any (·.isPrefixOf key)

def close (d : Draft) : Draft :=
  { d with declared := d.pending ++ d.declared, pending := [] }

def openTable (d : Draft) (key : Key) : Option Draft := do
  if d.declared.contains key || d.isFrozen key then none
  let fields ← changeTable true some key d.fields
  return { d with fields, header := key, declared := key :: d.declared }

/-- Add an element to a list of tables and open it. What was said of earlier elements does not hold
for this one. -/
def openElement (d : Draft) (key : Key) : Option Draft := do
  if d.isFrozen key then none
  let apart (k : Key) : Bool := !key.isPrefixOf k
  let fields ← changeTable true (addElement (key.getLast?.getD [])) key.dropLast d.fields
  return { d with
    fields, header := key, declared := key :: d.declared.filter apart
    frozen := d.frozen.filter apart }

def passed (header key : Key) : List Key :=
  (List.range (key.length - 1)).map fun i => header ++ key.take (i + 1)

def put (d : Draft) (key : Key) (v : Value) : Option Draft := do
  let through := passed d.header key
  if through.any d.declared.contains then none
  if d.isFrozen (d.header ++ key.dropLast) then none
  let fields ← addValue true (d.header ++ key) v d.fields
  let frozen := match v with
    | .list _ | .object _ => [d.header ++ key]
    | _ => []
  return { d with fields, pending := through ++ d.pending, frozen := frozen ++ d.frozen }

end Draft

def orMalformed {α : Type} : Option α → Reader α
  | some a => return a
  | none => malformed

def isBare (c : Code) : Bool :=
  c.isAsciiLetter || c.isAsciiDigit || c.val == 0x2d || c.val == 0x5f

def name : Reader Text := do
  let bare ← all isBare
  if !bare.isEmpty then return bare
  orMalformed (← lineString?)

def keyFrom : (fuel : Nat) → Reader Key
  | 0 => malformed
  | fuel + 1 => do
    let n ← name
    skipBlanks
    if ← accept "." then
      skipBlanks
      return n :: (← keyFrom fuel)
    return [n]

def key : Reader Key := do
  keyFrom ((← get).length + 1)

def keyBeforeValue : Reader Key := do
  let k ← key
  expect "="
  skipBlanks
  return k

def skipBetween : (fuel : Nat) → Reader Unit
  | 0 => return ()
  | fuel + 1 => do
    let before := (← get).length
    let _ ← all isBlankOrNewline
    skipComment
    if (← get).length ≠ before then skipBetween fuel

def skipAllBetween : Reader Unit := do
  skipBetween ((← get).length + 1)

mutual

def value : (fuel : Nat) → Reader Value
  | 0 => malformed
  | fuel + 1 => do
    match ← string? with
    | some t => return .text t
    | none =>
      if ← accept "[" then
        skipAllBetween
        if ← accept "]" then return .list []
        return .list (← elements fuel)
      else if ← accept "\x7b" then
        skipBlanks
        if ← accept "\x7d" then return .object []
        return .object (← members fuel [] [])
      else scalar

def elements : (fuel : Nat) → Reader (List Value)
  | 0 => malformed
  | fuel + 1 => do
    let v ← value fuel
    skipAllBetween
    if ← accept "]" then return [v]
    expect ","
    skipAllBetween
    if ← accept "]" then return [v]
    return v :: (← elements fuel)

/-- The members of a table on one line, up to its closing brace. -/
def members : (fuel : Nat) → (done : List Field) → (frozen : List Key) → Reader (List Field)
  | 0, _, _ => malformed
  | fuel + 1, done, frozen => do
    let k ← keyBeforeValue
    let v ← value fuel
    if frozen.any (·.isPrefixOf k) then malformed
    let done ← orMalformed (addValue false k v done)
    skipBlanks
    if ← accept "\x7d" then return done
    expect ","
    skipBlanks
    match v with
    | .list _ | .object _ => members fuel done (k :: frozen)
    | _ => members fuel done frozen

end

def header (d : Draft) : Reader Draft := do
  let d := d.close
  if ← accept "[[" then
    skipBlanks
    let d ← orMalformed (d.openElement (← key))
    expect "]]"
    return d
  else
    expect "["
    skipBlanks
    let d ← orMalformed (d.openTable (← key))
    expect "]"
    return d

def assignment (d : Draft) : Reader Draft := do
  let k ← keyBeforeValue
  let v ← value ((← get).length + 1)
  orMalformed (d.put k v)

/-- The rest of a document. Each statement takes something, so `fuel` bounds them. -/
def statements : (fuel : Nat) → Draft → Reader Draft
  | 0, d => return d
  | fuel + 1, d => do
    skipBlanks
    match ← peek with
    | none => return d
    | some c =>
      let d ←
        if c.val = 0xa ∨ c.val = 0x23 then pure d
        else if c.val = 0x5b then header d
        else if isBare c || c.val = 0x22 || c.val = 0x27 then assignment d
        else malformed
      skipBlanks
      skipComment
      match ← peek with
      | none => return d
      | some c =>
        if c.val = 0xa then
          advance
          statements fuel d
        else malformed

def read (t : Text) : Except Failure (List Field) := do
  let text := t.dropReturns
  let (d, _) ← (statements (text.length + 1) {}).run text
  return d.fields

end WebLint.Toml
