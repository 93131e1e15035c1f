import WebLint.Text

namespace WebLint

inductive RecordType
  | resource
  | item
  | entry
  | report
  | linterRecord
  | cssRecord
  | reportSettings
  | pipelineSettings
  | outputSettings
  | settings
deriving DecidableEq

def RecordType.title : RecordType → Text
  | resource => "Resource"
  | item => "DiagnosticItem"
  | entry => "ResourceDiagnostics"
  | report => "DiagnosticReport"
  | linterRecord => "LinterError"
  | cssRecord => "CssLintError"
  | reportSettings => "ReportConfig"
  | pipelineSettings => "PipelineConfig"
  | outputSettings => "OutputConfig"
  | settings => "Config"

inductive Step
  | field (name : Text)
  | index (n : Nat)
deriving DecidableEq

inductive ProblemKind
  | missing
  | notRecord
  | unknownField
  | notText
  | textTooShort
  | textNotEncodable
  | notInteger
  | unreadableInteger
  | integerTooLong
  | fraction
  | notFinite
  | notBoolean
  | unreadableBoolean
  | unknownMember
  | unknownChoice
  | notShown
  | notPath
  | notList
  | notSequence
  | blankPath
  | frozen
  | noSuchAttribute
deriving DecidableEq

/-- A problem with the part of a value that the steps lead to. -/
structure Problem where
  place : List Step
  kind : ProblemKind
deriving DecidableEq

def Problem.under (s : Step) (p : Problem) : Problem :=
  { p with place := s :: p.place }

end WebLint
