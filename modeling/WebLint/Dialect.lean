import WebLint.Fault
import WebLint.Text.Lower

namespace WebLint

inductive Dialect
  | plain
  | checkstyle
  | cssLint
deriving DecidableEq

/-- The names that differ from dialect to dialect. -/
structure DialectNames where
  root : Text
  issue : Text
  column : Text
  reason : Text
deriving DecidableEq

namespace Dialect

def all : List Dialect :=
  [plain, checkstyle, cssLint]

def name : Dialect → Text
  | plain => "lint"
  | checkstyle => "checkstyle"
  | cssLint => "csslint"

def label : Dialect → Text
  | plain => "PLAIN"
  | checkstyle => "CHECKSTYLE"
  | cssLint => "CSSLINT"

def names : Dialect → DialectNames
  | plain => ⟨"lint", "issue", "char", "reason"⟩
  | checkstyle => ⟨"checkstyle", "error", "column", "message"⟩
  | cssLint => ⟨"csslint", "issue", "char", "reason"⟩

/-- The dialect with one of these names, in any case, white space around it aside. -/
def ofName? (t : Text) : Option Dialect :=
  let token := t.trim.lower
  all.find? fun d => token == d.name || token == d.label.lower

def ofValue (v : Value) : Except Fault Dialect :=
  let named? : Option Dialect := match v with
    | .text t => ofName? t
    | _ => none
  match named? with
  | some d => .ok d
  | none => .error (.quoting v (.unknownDialect v))

end Dialect

end WebLint
