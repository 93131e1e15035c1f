import WebLint.Arguments
import WebLint.Chain
import WebLint.Display.Stream
import WebLint.Document
import WebLint.Payload
import WebLint.Record.Resource
import WebLint.Settings.Load
import WebLint.Summary

namespace WebLint

/-- What a report is to be made of, and how. -/
structure ReportOptions where
  source : Text
  tool : Option Text := none
  dialect : Option Text := none
  out : Option Text := none
  quiet : Bool := false
  settings : Option Text := none

structure ProcessOptions where
  source : Text
  stages : List Text := []
  out : Option Text := none
  noMinimize : Bool := false
  settings : Option Text := none

inductive Command
  | report (o : ReportOptions)
  | process (o : ProcessOptions)
  | stages
  | help

/-- How a command ends: its exit code, what it printed, the files, and the fault that ended it if it
is not one that the user was told about. -/
structure Ending where
  exitCode : Nat
  screen : Text
  files : Files
  fault : Option Fault := none

namespace Command

/-! ### Arguments -/

def helpOption : OptionSpec := ⟨["--help"], false⟩

def reportSpecs : List OptionSpec := [
  ⟨["--tool"], true⟩, ⟨["--dialect"], true⟩, ⟨["--out", "-o"], true⟩, ⟨["--quiet", "-q"], false⟩,
  ⟨["--config"], true⟩, helpOption]

def processSpecs : List OptionSpec := [
  ⟨["--stage", "-s"], true⟩, ⟨["--out", "-o"], true⟩, ⟨["--no-minimize"], false⟩,
  ⟨["--config"], true⟩, helpOption]

def parse (args : List Text) : Option Command :=
  leading false args
where
  source? (a : Arguments) : Option Text :=
    match a.others with
    | [t] => some t
    | _ => none
  named : List Text → Option Command
    | [] => none
    | name :: rest =>
      if name = "report" then do
        let a ← Arguments.parse reportSpecs rest
        if a.has "--help" then return help
        return report {
          source := ← source? a
          tool := a.value? "--tool"
          dialect := a.value? "--dialect"
          out := a.value? "--out"
          quiet := a.has "--quiet"
          settings := a.value? "--config" }
      else if name = "process" then do
        let a ← Arguments.parse processSpecs rest
        if a.has "--help" then return help
        return process {
          source := ← source? a
          stages := a.values "--stage"
          out := a.value? "--out"
          noMinimize := a.has "--no-minimize"
          settings := a.value? "--config" }
      else if name = "processors" then do
        let a ← Arguments.parse [helpOption] rest
        if a.has "--help" then return help
        if a.others.isEmpty then return stages else none
      else none
  leading (helpGiven : Bool) : List Text → Option Command
    | [] => if helpGiven then some help else none
    | arg :: rest =>
      if arg = "--help" then leading true rest
      else if arg ≠ "--" ∧ Arguments.isOption arg then none
      else if helpGiven then some help
      else named (if arg = "--" then rest else arg :: rest)

/-! ### Files that commands need -/

def isFile (fs : Files) (base : Path) (t : Text) : Bool :=
  let p := Path.ofText t
  !t.isEmpty && !t.endsWithCode slash && (Text.splitOn slash t).getLast? != some [dot] &&
    (fs.content? base p).isSome

def source? : Command → Option Text
  | report o => some o.source
  | process o => some o.source
  | stages | help => none

def settingsFile? : Command → Option Text
  | report o => o.settings
  | process o => o.settings
  | stages | help => none

def out? : Command → Option Text
  | report o => o.out
  | process o => o.out
  | stages | help => none

def isUsable (fs : Files) (base : Path) (c : Command) : Bool :=
  c.source?.all (isFile fs base)

def paths (c : Command) : List Path :=
  [.ofText Settings.fileName, .ofText Settings.projectName] ++
    ((c.settingsFile?.toList ++ c.source?.toList ++ c.out?.toList).map .ofText)

/-! ### Steps that commands share -/

def settings (fs : Files) (base : Path) (named : Option Text) : Except Fault Settings :=
  Settings.load fs base base (named.map .ofText)

def sourceText (fs : Files) (base : Path) (source : Text) : Except Fault Text := do
  let p := Path.ofText source
  match fs.content? base p with
  | none => throw (.file .notFound p.text)
  | some o => return ((← (Utf8.decode o).mapError .undecodable).universalNewlines)

def stream : OutputStream := .ready false

def stopped (w : Fault.Wording) (fs : Files) (screen : Text) (emoji : Bool) (f : Fault) : Ending :=
  if f.isExpected then
    ⟨1, screen ++ Notice.failure.text emoji (f.messageWith w), fs, none⟩
  else ⟨1, screen, fs, some f⟩

/-! ### The report -/

def adaptText (tool : Tool) (t : Text) : Except Fault Report :=
  match tool with
  | .linter => do
    adapted (← Payload.loadTyped .linterRecord LinterRecord.rule t) LinterRecord.adapter
  | .cssLint => do
    adapted (← Payload.loadTyped .cssRecord CssRecord.rule t) CssRecord.adapter
where
  adapted {ρ : Type} (gs : List (Group ρ)) (a : Adapter Unit ρ) : Except Fault Report :=
    (Adapter.report (some (gs.map fun g => (.text g.1, g.2))) (some a) ()).result

/-- A report that is ready to be printed or written. -/
structure Prepared where
  report : Report
  dialect : Dialect
  document : Xml.Element
  destination : Option Path

/-- The tool of a report: the option, unless it is empty, or else what the settings say. -/
def reportTool (s : Settings) (o : ReportOptions) : Except Fault Tool :=
  match o.tool with
  | none | some [] => .ok s.report.tool
  | some t => Tool.ofValue (.text t)

def reportDialect (s : Settings) (o : ReportOptions) : Except Fault Dialect :=
  match o.dialect with
  | none => .ok s.report.dialect
  | some t => Dialect.ofValue (.text t)

/-- Where a report goes: the option, or else what the settings say; without either it is printed. -/
def reportDestination (s : Settings) (o : ReportOptions) : Option Path :=
  (o.out.map .ofText).or s.report.output

def prepare (fs : Files) (base : Path) (s : Settings) (o : ReportOptions) :
    Except Fault Prepared := do
  let dialect ← reportDialect s o
  let tool ← reportTool s o
  let report ← adaptText tool (← sourceText fs base o.source)
  return ⟨report, dialect, ← report.toElement dialect, reportDestination s o⟩

def reportScreen (s : OutputSettings) (o : ReportOptions) (p : Prepared) (destination : Path) :
    Text × Option Fault :=
  let quiet := o.quiet || s.quiet
  if quiet then ([], none)
  else
    let nothing : Text :=
      if p.report.entries.isEmpty then
        Notice.warning.text s.emoji ("no lint records found in " ++ (Path.ofText o.source).text)
      else []
    match Section.heading s.color "Summary" with
    | .error f => (nothing, some f)
    | .ok heading =>
      match p.report.summary { s with quiet } with
      | .error f => (nothing ++ heading, some f)
      | .ok summary =>
        (nothing ++ heading ++ summary ++ Notice.success.text s.emoji
          (p.dialect.name ++ " report written to " ++ destination.text), none)

def runReport (w : Fault.Wording) (fs : Files) (base : Path) (o : ReportOptions) : Ending :=
  match settings fs base o.settings with
  | .error f => stopped w fs [] true f
  | .ok s =>
    match prepare fs base s o with
    | .error f => stopped w fs [] s.output.emoji f
    | .ok p =>
      match p.destination with
      | none => ⟨0, stream.echo (Xml.write true p.document), fs, none⟩
      | some destination =>
        match fs.save base destination (Xml.octets true p.document) with
        | .error (f, fs) => stopped w fs [] s.output.emoji f
        | .ok fs =>
          match reportScreen s.output o p destination with
          | (screen, none) => ⟨0, screen, fs, none⟩
          | (screen, some f) => ⟨1, screen, fs, some f⟩

/-! ### Processing -/

/-- The chain of a command: the stages of the options, or else those of the settings. -/
def processChain (s : Settings) (o : ProcessOptions) : Except Fault (Chain Unit) :=
  Chain.ofNames (some ((if o.stages.isEmpty then s.pipeline.stages else o.stages).map .text))

def processResource (s : Settings) (o : ProcessOptions) : Except Fault Resource :=
  Resource.ofPath o.source (.bool (s.pipeline.minimize && !o.noMinimize))

def emptyNotice (s : OutputSettings) (c : Chain Unit) : Text :=
  if c.stages.isEmpty && !s.quiet then
    Notice.info.text s.emoji "no processors configured, output is unchanged"
  else []

def runProcess (w : Fault.Wording) (fs : Files) (base : Path) (o : ProcessOptions) : Ending :=
  match settings fs base o.settings with
  | .error f => stopped w fs [] true f
  | .ok s =>
    match do return (← processResource s o, ← processChain s o) with
    | .error f => stopped w fs [] s.output.emoji f
    | .ok (r, c) =>
      let notice := emptyNotice s.output c
      match do (c.run r (← sourceText fs base o.source) ()).result with
      | .error f => stopped w fs notice s.output.emoji f
      | .ok t =>
        match o.out with
        | none => ⟨0, notice ++ stream.echo t, fs, none⟩
        | some out =>
          let destination := Path.ofText out
          match fs.save base destination (Utf8.encode t) with
          | .error (f, fs) => stopped w fs notice s.output.emoji f
          | .ok fs =>
            let done : Text := if s.output.quiet then [] else
              Notice.success.text s.output.emoji
                (r.uri ++ " processed into " ++ destination.text)
            ⟨0, notice ++ done, fs, none⟩

/-! ### All commands -/

def stageNames : Text :=
  Builtin.all.flatMap fun b => stream.echo b.name

def usage : Text :=
  "report SOURCE [--tool TEXT] [--dialect TEXT] [--out PATH] [--quiet] [--config PATH]\n" ++
    "process SOURCE [--stage TEXT]... [--out PATH] [--no-minimize] [--config PATH]\n" ++
    "processors\n"

def run (w : Fault.Wording) (fs : Files) (base : Path) : Command → Ending
  | report o => runReport w fs base o
  | process o => runProcess w fs base o
  | stages => ⟨0, stageNames, fs, none⟩
  | help => ⟨0, usage, fs, none⟩

/-- Run the command of some arguments; the exit code tells if they are not as they should be. -/
def execute (w : Fault.Wording) (fs : Files) (base : Path) (args : List Text) : Ending :=
  match parse args with
  | some c => if c.isUsable fs base then c.run w fs base else ⟨2, [], fs, none⟩
  | none => ⟨2, [], fs, none⟩

end Command

end WebLint
