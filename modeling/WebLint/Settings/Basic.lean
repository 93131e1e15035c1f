import WebLint.Dialect
import WebLint.Path

namespace WebLint

/-- The lint tools whose records are understood. -/
inductive Tool
  | linter
  | cssLint
deriving DecidableEq

namespace Tool

def name : Tool → Text
  | linter => "linter"
  | cssLint => "csslint"

def ofName? (t : Text) : Option Tool :=
  [linter, cssLint].find? fun k => k.name == t

def ofValue (v : Value) : Except Fault Tool :=
  let named? : Option Tool := match v with
    | .text t => ofName? t
    | _ => none
  match named? with
  | some k => .ok k
  | none => .error (.quoting v (.unknownTool v))

/-- The type of the records that a tool gives. -/
def recordType : Tool → RecordType
  | linter => .linterRecord
  | cssLint => .cssRecord

end Tool

structure ReportSettings where
  dialect : Dialect := .checkstyle
  tool : Tool := .linter
  output : Option Path := none
deriving DecidableEq

structure PipelineSettings where
  stages : List Text := ["strip-comments", "trim-lines"]
  minimize : Bool := true
deriving DecidableEq

structure OutputSettings where
  color : Bool := true
  emoji : Bool := true
  quiet : Bool := false
deriving DecidableEq

structure Settings where
  report : ReportSettings := {}
  pipeline : PipelineSettings := {}
  output : OutputSettings := {}
deriving DecidableEq

end WebLint
