import WebLint.Text.Lower
import WebLint.Value

namespace WebLint

inductive Severity
  | error
  | warning
  | info
deriving DecidableEq

abbrev Aliases := List (Text × Severity)

namespace Severity

def name : Severity → Text
  | error => "error"
  | warning => "warning"
  | info => "info"

def ofName? (t : Text) : Option Severity :=
  [error, warning, info].find? fun s => s.name == t

def ofCode? (code : Text) : Option Severity :=
  match code.trim with
  | [] => none
  | c :: _ =>
    if c = 'E' ∨ c = 'e' ∨ c = 'F' ∨ c = 'f' then some error
    else if c = 'W' ∨ c = 'w' then some warning
    else none

def commonAliases : Aliases := [
  ("error", error), ("err", error), ("fatal", error), ("warning", warning), ("warn", warning),
  ("info", info), ("notice", info), ("note", info)]

/-- The severity of a label: the integers 2 and 1 are errors and warnings, texts are looked up
without regard to case and to white space around them. -/
def ofLabel? (aliases : Aliases) : Value → Option Severity
  | .int n => if n = 2 then some error else if n = 1 then some warning else none
  | .text t => aliases.lookup t.trim.lower
  | _ => none

end Severity

end WebLint
