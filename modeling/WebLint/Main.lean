import WebLint.Command
import WebLint.Record.Wording

namespace WebLint.Disk

def name (p : Place) : String :=
  Text.toString (slash :: Text.join [slash] p)

/-- What is at a place in a directory. What can be named but not be read as a file is taken as a
directory. -/
def node? (p : Place) : IO (Option Node) := do
  match ← (IO.FS.readBinFile (name p)).toBaseIO with
  | .ok octets => return some (.file octets.toList)
  | .error (.noFileOrDirectory ..) => return none
  | .error _ => return some .directory

def fetch (fs : Files) (ps : List Place) : IO Files :=
  ps.foldlM (fun fs p => do
    if p.isEmpty || fs.node? p.dropLast != some .directory then return fs
    match ← node? p with
    | some n => return fs.put p n
    | none => return fs) fs

def follow (fs : Files) (base : Path) (ps : List Path) : IO Files :=
  fetch fs (ps.flatMap fun p => Files.visited [] (base.append p).parts)

def store (changes : List (Place × Node)) : IO Unit := do
  for (p, n) in changes.mergeSort fun a b => a.1.length ≤ b.1.length do
    match n with
    | .directory => IO.FS.createDirAll (name p)
    | .file octets => IO.FS.writeBinFile (name p) ⟨octets.toArray⟩

end WebLint.Disk

open WebLint

def main (args : List String) : IO UInt32 := do
  let texts := args.map Text.ofString
  let base := Path.ofText (Text.ofString (toString (← IO.currentDir)))
  let some command := Command.parse texts | usage
  let here ← Disk.follow {} base command.paths
  let files ← match Command.settings here base (command.settingsFile?) with
    | .ok s => Disk.follow here base s.report.output.toList
    | .error _ => pure here
  if !command.isUsable files base then return ← usage
  let ending := command.run .plain files base
  Disk.store (files.changes ending.files)
  IO.print ending.screen.toString
  match ending.fault with
  | some f => IO.eprintln (f.messageWith .plain).toString
  | none => pure ()
  return .ofNat ending.exitCode
where
  usage : IO UInt32 := do
    IO.eprint Command.usage.toString
    return 2
