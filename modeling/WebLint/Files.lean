import WebLint.Fault
import WebLint.Path

namespace WebLint

inductive Node
  | file (content : Octets)
  | directory
deriving DecidableEq

abbrev Place := List Text

/-- What is at each place where something is; the top is a directory always. -/
structure Files where
  nodes : List (Place × Node) := []

namespace Files

def above : Text := [dot, dot]

def node? (fs : Files) (p : Place) : Option Node :=
  if p.isEmpty then some .directory else fs.nodes.lookup p

def put (fs : Files) (p : Place) (n : Node) : Files :=
  ⟨(p, n) :: fs.nodes.filter (·.1 ≠ p)⟩

def next (from_ : Place) (c : Text) : Place :=
  if c = above then from_.dropLast else from_ ++ [c]

/-- The place that components lead to from another. Each component but the last must lead to a
directory; at the end there may be nothing. -/
def walk (fs : Files) (from_ : Place) : List Text → Except FileTrouble Place
  | [] => .ok from_
  | c :: cs =>
    match fs.node? from_ with
    | none => .error .notFound
    | some (.file _) => .error .notDirectory
    | some .directory => walk fs (next from_ c) cs

def locate (fs : Files) (base p : Path) : Except FileTrouble Place :=
  fs.walk [] (base.append p).parts

def visited (from_ : Place) : List Text → List Place
  | [] => [from_]
  | c :: cs => from_ :: visited (next from_ c) cs

def find? (fs : Files) (base p : Path) : Option Node :=
  match fs.locate base p with
  | .ok place => fs.node? place
  | .error _ => none

def content? (fs : Files) (base p : Path) : Option Octets :=
  match fs.find? base p with
  | some (.file o) => some o
  | _ => none

def makeDirectory (fs : Files) (base p : Path) : Except FileTrouble Files :=
  match fs.locate base p with
  | .error e => .error e
  | .ok place =>
    match fs.node? place with
    | none => .ok (fs.put place .directory)
    | some _ => .error .alreadyExists

def ensureDirectory (fs : Files) (base p : Path) : Except Fault Files :=
  match fs.makeDirectory base p with
  | .ok fs' => .ok fs'
  | .error e => if fs.find? base p = some .directory then .ok fs else .error (.file e p.text)

def leaving (fs : Files) (r : Except Fault Files) : Except (Fault × Files) Files :=
  r.mapError (·, fs)

/-- Make a directory and the directories above it, as far as they are missing. Those that were made
before a fault stay. -/
def ensureDirectories (fs : Files) (base p : Path) : Except (Fault × Files) Files :=
  match fs.makeDirectory base p with
  | .error .notFound =>
    if h : p.parts = [] then .error (.file .notFound p.text, fs)
    else
      have : p.parent.parts.length < p.parts.length := by
        have := List.length_pos_iff.2 h
        simp only [Path.parent, List.length_dropLast]
        omega
      match ensureDirectories fs base p.parent with
      | .ok fs' => fs'.leaving (fs'.ensureDirectory base p)
      | .error e => .error e
  | _ => fs.leaving (fs.ensureDirectory base p)
termination_by p.parts.length

def hasNul (p : Path) : Bool :=
  p.parts.any (·.contains (Code.ofNat 0))

def write (fs : Files) (base p : Path) (content : Octets) : Except Fault Files :=
  if hasNul p then .error .nulInPath
  else match fs.locate base p with
  | .error e => .error (.file e p.text)
  | .ok place =>
    match fs.node? place with
    | some .directory => .error (.file .isDirectory p.text)
    | _ => .ok (fs.put place (.file content))

/-- Write a file, and make the directories that lead to it; these stay if it cannot be written. -/
def save (fs : Files) (base p : Path) (content : Octets) : Except (Fault × Files) Files :=
  if hasNul p.parent then .error (.nulInPath, fs)
  else match fs.ensureDirectories base p.parent with
  | .ok fs' => fs'.leaving (fs'.write base p content)
  | .error e => .error e

def changes (old new : Files) : List (Place × Node) :=
  new.nodes.filter fun (p, n) => old.node? p ≠ some n

end Files

end WebLint
