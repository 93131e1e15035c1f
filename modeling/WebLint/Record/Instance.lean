import WebLint.Record.Diagnostics
import WebLint.Record.Resource
import WebLint.Settings.Record

namespace WebLint

inductive Instance
  | resource (r : Resource)
  | item (i : Item)
  | entry (e : Entry)
  | report (r : Report)
  | linterRecord (r : LinterRecord)
  | cssRecord (r : CssRecord)
  | reportSettings (s : ReportSettings)
  | pipelineSettings (s : PipelineSettings)
  | outputSettings (s : OutputSettings)
  | settings (s : Settings)
deriving DecidableEq

namespace RecordType

def all : List RecordType :=
  [resource, item, entry, report, linterRecord, cssRecord, reportSettings, pipelineSettings,
    outputSettings, settings]

def ofTitle? (t : Text) : Option RecordType :=
  all.find? fun k => k.title == t

def rule : RecordType → Rule Instance
  | resource => fun v => .resource <$> Resource.rule v
  | item => fun v => .item <$> Item.rule v
  | entry => fun v => .entry <$> Entry.rule v
  | report => fun v => .report <$> Report.rule v
  | linterRecord => fun v => .linterRecord <$> LinterRecord.rule v
  | cssRecord => fun v => .cssRecord <$> CssRecord.rule v
  | reportSettings => fun v => .reportSettings <$> ReportSettings.rule v
  | pipelineSettings => fun v => .pipelineSettings <$> PipelineSettings.rule v
  | outputSettings => fun v => .outputSettings <$> OutputSettings.rule v
  | settings => fun v => .settings <$> Settings.rule v

def check (k : RecordType) (v : Value) : Except Fault Instance :=
  (k.rule v).run k

end RecordType

namespace Instance

def type : Instance → RecordType
  | resource _ => .resource
  | item _ => .item
  | entry _ => .entry
  | report _ => .report
  | linterRecord _ => .linterRecord
  | cssRecord _ => .cssRecord
  | reportSettings _ => .reportSettings
  | pipelineSettings _ => .pipelineSettings
  | outputSettings _ => .outputSettings
  | settings _ => .settings

def toValue : Instance → Value
  | resource r => r.toValue
  | item i => i.toValue
  | entry e => e.toValue
  | report r => r.toValue
  | linterRecord r => r.toValue
  | cssRecord r => r.toValue
  | reportSettings s => s.toValue
  | pipelineSettings s => s.toValue
  | outputSettings s => s.toValue
  | settings s => s.toValue

/-- Names that start with a low line and yet stand for what a record is as a whole. -/
def reserved : List Text :=
  ["__dict__", "__class__", "__weakref__", "__fields_set__"]

/-- Other names that start with a low line belong to no record; assigning to them has no effect. -/
def isPrivate (name : Text) : Bool :=
  name.head? == some lowLine && !reserved.contains name
where
  lowLine : Code := '_'

def reservedFault (name : Text) (v : Value) : Fault :=
  if name = "__dict__" then
    .other "TypeError" ("__dict__ must be set to a dictionary, not a '" ++ v.typeName ++ "'")
  else if name = "__class__" then
    .other "TypeError" ("__class__ must be set to a class, not '" ++ v.typeName ++ "' object")
  else .noSuchPart

def refusal {α : Type} (name : Text) (k : ProblemKind) : Check α :=
  .problems [⟨[.field name], k⟩]

/-- The attributes that every record computes of itself; they can only be read. -/
def computed : List Text :=
  ["model_extra", "model_fields_set"]

def unknown {α : Type} (name : Text) : Check α :=
  if computed.contains name then .fault .noSuchPart else refusal name .noSuchAttribute

def checked {α : Type} (name : Text) (rule : Rule α) (v : Value) : Check α :=
  (rule v).under (.field name)

def assignReport (s : ReportSettings) (name : Text) (v : Value) : Check ReportSettings :=
  if name = "dialect" then ({ s with dialect := · }) <$> checked name Dialect.rule v
  else if name = "tool" then ({ s with tool := · }) <$> checked name Tool.rule v
  else if name = "output" then
    ({ s with output := · }) <$> checked name (Rule.optional Path.rule) v
  else unknown name

def assignPipeline (s : PipelineSettings) (name : Text) (v : Value) : Check PipelineSettings :=
  if name = "stages" then ({ s with stages := · }) <$> checked name (Rule.list Rule.text) v
  else if name = "minimize" then ({ s with minimize := · }) <$> checked name Rule.boolean v
  else unknown name

def assignOutput (s : OutputSettings) (name : Text) (v : Value) : Check OutputSettings :=
  if name = "color" then ({ s with color := · }) <$> checked name Rule.boolean v
  else if name = "emoji" then ({ s with emoji := · }) <$> checked name Rule.boolean v
  else if name = "quiet" then ({ s with quiet := · }) <$> checked name Rule.boolean v
  else unknown name

def assignSettings (s : Settings) (name : Text) (v : Value) : Check Settings :=
  if name = "report" then ({ s with report := · }) <$> checked name ReportSettings.rule v
  else if name = "pipeline" then
    ({ s with pipeline := · }) <$> checked name PipelineSettings.rule v
  else if name = "output" then ({ s with output := · }) <$> checked name OutputSettings.rule v
  else unknown name

/-- Assign to an attribute of a report; the computed ones can only be read. -/
def assignEntries (r : Report) (name : Text) (v : Value) : Check Report :=
  if name = "entries" then ({ r with entries := · }) <$> checked name Report.entriesRule v
  else if name = "total_items" ∨ name = "reports" then .fault .noSuchPart
  else unknown name

def assignField (name : Text) (v : Value) (x : Instance) : Check Instance :=
  if isPrivate name then .ok x
  else if reserved.contains name then .fault (reservedFault name v)
  else match x with
    | report r => report <$> assignEntries r name v
    | reportSettings s => reportSettings <$> assignReport s name v
    | pipelineSettings s => pipelineSettings <$> assignPipeline s name v
    | outputSettings s => outputSettings <$> assignOutput s name v
    | settings s => settings <$> assignSettings s name v
    | _ => refusal name .frozen

def assignPart (s : Settings) (part name : Text) (v : Value) : Except Fault Settings :=
  if isPrivate name && Settings.fieldNames.contains part then .ok s
  else if reserved.contains name && Settings.fieldNames.contains part then
    .error (reservedFault name v)
  else if part = "report" then
    ({ s with report := · }) <$> (assignReport s.report name v).run .reportSettings
  else if part = "pipeline" then
    ({ s with pipeline := · }) <$> (assignPipeline s.pipeline name v).run .pipelineSettings
  else if part = "output" then
    ({ s with output := · }) <$> (assignOutput s.output name v).run .outputSettings
  else .error .noSuchPart

/-- Assign to the attribute that a path of names leads to. -/
def assignPath (names : List Text) (v : Value) (x : Instance) : Except Fault Instance :=
  match names, x with
  | [name], x => (assignField name v x).run x.type
  | [part, name], settings s => settings <$> assignPart s part name v
  | _, _ => .error .noSuchPart

def assign (target : Text) (v : Value) (x : Instance) : Except Fault Instance :=
  assignPath (Text.splitOn dot target) v x

def assigned (target : Text) (v : Value) (x : Instance) : Instance :=
  match assign target v x with
  | .ok y => y
  | .error _ => x

end Instance

end WebLint
