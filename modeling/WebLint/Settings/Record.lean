import WebLint.Record.Tool
import WebLint.Settings.Basic

namespace WebLint

open Check

def Dialect.rule : Rule Dialect := fun v =>
  match ofValue v with
  | .ok d => .ok d
  | .error .integerTooLong => problem .notShown
  | .error f => .fault f

def Path.rule : Rule Path
  | .text t => .ok (ofText t)
  | _ => problem .notPath

def Tool.rule : Rule Tool :=
  Rule.choice ofName? .unknownChoice

/-- What was checked, unless there are fields that are not known. -/
def Check.closed {α : Type} (fs : List Field) (known : List Text) (c : Check α) : Check α :=
  (fun a _ => a) <$> c <*> onlyFields fs known

namespace ReportSettings

def fieldNames : List Text :=
  ["dialect", "tool", "output"]

def rule : Rule ReportSettings :=
  Rule.record fun fs => closed fs fieldNames <|
    ReportSettings.mk <$> defaulted fs "dialect" .checkstyle Dialect.rule <*>
      defaulted fs "tool" .linter Tool.rule <*>
      defaulted fs "output" none (Rule.optional Path.rule)

def toValue (s : ReportSettings) : Value := .object [
  ("dialect", .text s.dialect.name), ("tool", .text s.tool.name),
  ("output", .ofOption (.text ·.text) s.output)]

end ReportSettings

namespace PipelineSettings

def fieldNames : List Text :=
  ["stages", "minimize"]

def rule : Rule PipelineSettings :=
  Rule.record fun fs => closed fs fieldNames <|
    PipelineSettings.mk <$> defaulted fs "stages" ["strip-comments", "trim-lines"]
        (Rule.list Rule.text) <*>
      defaulted fs "minimize" true Rule.boolean

def toValue (s : PipelineSettings) : Value := .object [
  ("stages", .list (s.stages.map .text)), ("minimize", .bool s.minimize)]

end PipelineSettings

namespace OutputSettings

def fieldNames : List Text :=
  ["color", "emoji", "quiet"]

def rule : Rule OutputSettings :=
  Rule.record fun fs => closed fs fieldNames <|
    OutputSettings.mk <$> defaulted fs "color" true Rule.boolean <*>
      defaulted fs "emoji" true Rule.boolean <*> defaulted fs "quiet" false Rule.boolean

def toValue (s : OutputSettings) : Value := .object [
  ("color", .bool s.color), ("emoji", .bool s.emoji), ("quiet", .bool s.quiet)]

end OutputSettings

namespace Settings

def fieldNames : List Text :=
  ["report", "pipeline", "output"]

def rule : Rule Settings :=
  Rule.record fun fs => closed fs fieldNames <|
    Settings.mk <$> defaulted fs "report" {} ReportSettings.rule <*>
      defaulted fs "pipeline" {} PipelineSettings.rule <*>
      defaulted fs "output" {} OutputSettings.rule

def toValue (s : Settings) : Value := .object [
  ("report", s.report.toValue), ("pipeline", s.pipeline.toValue), ("output", s.output.toValue)]

end Settings

end WebLint
