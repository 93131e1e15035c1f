import WebLint.Files
import WebLint.Settings.Record
import WebLint.Toml.Reader

namespace WebLint.Settings

def fileName : Text := "assetqa.toml"

def projectName : Text := "pyproject.toml"

/-- The part of a table under two names, if there are tables there. -/
def section_ (fs : List Field) : List Field :=
  match fieldOf? fs "tool" with
  | some (.object tools) =>
    match fieldOf? tools "assetqa" with
    | some (.object fields) => fields
    | _ => []
  | _ => []

/-- A file that holds settings: its path, its content, and whether they are in a section of it. -/
structure Source where
  path : Path
  content : Octets
  isProject : Bool

def sourceIn? (fs : Files) (base root : Path) : Option Source :=
  let own := root.append (.ofText fileName)
  let project := root.append (.ofText projectName)
  match fs.content? base own with
  | some o => some ⟨own, o, false⟩
  | none => (fs.content? base project).map (⟨project, ·, true⟩)

def source? (fs : Files) (base root : Path) : Option Path → Except Fault (Option Source)
  | none => .ok (sourceIn? fs base root)
  | some p =>
    match fs.content? base p with
    | some o => .ok (some ⟨p, o, p.name == projectName⟩)
    | none => .error (.settingsMissing p.text)

def Source.table (s : Source) : Except Fault (List Field) := do
  let t ← (Utf8.decode s.content).mapError .undecodable
  match Toml.read t with
  | .ok fs => return fs
  | .error .malformed => throw (.settingsMalformed s.path.text)
  | .error (.longInteger digits) => throw (.numeralTooLong digits)

def ofTable (path : Path) (fs : List Field) : Except Fault Settings :=
  match rule (.object fs) with
  | .ok s => .ok s
  | .problems ps => .error (.settingsInvalid path.text ps)
  | .fault f => .error f

def Source.settings (s : Source) : Except Fault Settings := do
  let fs ← s.table
  ofTable s.path (if s.isProject then section_ fs else fs)

def load (fs : Files) (base root : Path) (named : Option Path) : Except Fault Settings := do
  match ← source? fs base root named with
  | none => return {}
  | some s => s.settings

end WebLint.Settings
