import WebLint.Proofs.Command.Report
import WebLint.Proofs.Files.Writes
import WebLint.Proofs.Settings.Sources
import WebLint.Proofs.Settings.Tables

namespace WebLint.Command

open Check Settings

variable {w : Fault.Wording} {fs fs' : Files} {base : Path} {c : Command} {s : Settings}
  {table table' : List Field} {named : Option Text}

/-! ### Options as settings -/

def field (key : Text) (v? : Option Value) : List Field :=
  v?.toList.map (key, ·)

def given : Command → List Field
  | report o => [
    ("report", .object (
      field "tool" (o.tool.map .text) ++ field "dialect" (o.dialect.map .text) ++
        field "output" (o.out.map .text))),
    ("output", .object (field "quiet" (if o.quiet then some (.bool true) else none)))]
  | process o => [
    ("pipeline", .object (
      field "stages" (if o.stages.isEmpty then none else some (.list (o.stages.map .text))) ++
        field "minimize" (if o.noMinimize then some (.bool false) else none)))]
  | stages | help => []

/-- A command without the options that are settings too, with its settings from another file. -/
def bare (named : Option Text) : Command → Command
  | report o => report { source := o.source, settings := named }
  | process o => process { source := o.source, out := o.out, settings := named }
  | stages => stages
  | help => help

def IsNaming : Command → Prop
  | report o => (∀ t ∈ o.tool, ∃ k, Tool.ofName? t = some k) ∧
      ∀ t ∈ o.dialect, ∃ d, Dialect.ofName? t = some d
  | process _ | stages | help => True

/-- A table is another one, with what the options of a command say put into it. -/
structure Puts (c : Command) (table table' : List Field) : Prop where
  tidy : Tidy table'
  setting : ∀ section_ key,
    setting? table' section_ key = (setting? c.given section_ key).or (setting? table section_ key)

/-- Settings under the options of a command: what an option names takes the place of a setting. A
report is quiet if either asks for that, and nothing is made smaller if either speaks against it. -/
def override : Command → Settings → Settings
  | report o, s => { s with
      report := {
        dialect := (o.dialect.bind Dialect.ofName?).getD s.report.dialect
        tool := (o.tool.bind Tool.ofName?).getD s.report.tool
        output := (o.out.map .ofText).or s.report.output }
      output := { s.output with quiet := o.quiet || s.output.quiet } }
  | process o, s => { s with
      pipeline := {
        stages := if o.stages.isEmpty then s.pipeline.stages else o.stages
        minimize := s.pipeline.minimize && !o.noMinimize } }
  | stages, s | help, s => s

theorem setting?_given_report (o : ReportOptions) :
    setting? (report o).given "report" "tool" = o.tool.map .text ∧
      setting? (report o).given "report" "dialect" = o.dialect.map .text ∧
      setting? (report o).given "report" "output" = o.out.map .text := by
  obtain ⟨_, tool, dialect, out, _, _⟩ := o
  cases tool <;> cases dialect <;> cases out <;> exact ⟨rfl, rfl, rfl⟩

theorem setting?_given_process (o : ProcessOptions) :
    setting? (process o).given "pipeline" "stages" =
        (if o.stages.isEmpty then none else some (.list (o.stages.map .text))) ∧
      setting? (process o).given "pipeline" "minimize" =
        (if o.noMinimize then some (.bool false) else none) := by
  obtain ⟨_, stages, _, noMinimize, _⟩ := o
  cases stages <;> cases noMinimize <;> exact ⟨rfl, rfl⟩

theorem rule_dialect_iff {v : Value} {d : Dialect} :
    Dialect.rule v = .ok d ↔ Dialect.ofValue v = .ok d := by
  rw [Dialect.rule]
  cases Dialect.ofValue v with
  | ok d' => simp
  | error f => cases f <;> simp [problem]

theorem rule_tool_iff {t : Text} {k : Tool} :
    Tool.rule (.text t) = .ok k ↔ Tool.ofValue (.text t) = .ok k := by
  cases h : Tool.ofName? t <;> simp [Tool.rule, Rule.choice, Tool.ofValue, h, problem]

theorem reportDialect_eq_ok_iff {o : ReportOptions} {d : Dialect} :
    reportDialect s o = .ok d ↔ Means Dialect.rule s.report.dialect (o.dialect.map .text) d := by
  rw [reportDialect]
  cases o.dialect with
  | none => exact ⟨fun h => (Except.ok.inj h).symm, fun h => congrArg Except.ok h.symm⟩
  | some t => exact rule_dialect_iff.symm

/-- A tool is read from an option as it is from a setting, unless the option is empty. -/
theorem reportTool_eq_ok_iff {o : ReportOptions} (ho : o.tool ≠ some []) {k : Tool} :
    reportTool s o = .ok k ↔ Means Tool.rule s.report.tool (o.tool.map .text) k := by
  rw [reportTool]
  cases h : o.tool with
  | none => exact ⟨fun h => (Except.ok.inj h).symm, fun h => congrArg Except.ok h.symm⟩
  | some t =>
    cases t with
    | nil => exact absurd h ho
    | cons _ _ => exact rule_tool_iff.symm

theorem reportDialect_eq_ok {o : ReportOptions} (hc : (report o).IsNaming) (s : Settings) :
    reportDialect s o = .ok ((report o).override s).report.dialect := by
  rw [reportDialect, override]
  cases h : o.dialect with
  | none => rfl
  | some t =>
    obtain ⟨d, hd⟩ := hc.2 t h
    simp only [Dialect.ofValue, Option.bind_some, hd, Option.getD_some]

theorem IsNaming.tool_ne {o : ReportOptions} (hc : (report o).IsNaming) : o.tool ≠ some [] := by
  intro h
  obtain ⟨k, hk⟩ := hc.1 [] h
  cases hk

theorem reportTool_eq_ok {o : ReportOptions} (hc : (report o).IsNaming) (s : Settings) :
    reportTool s o = .ok ((report o).override s).report.tool := by
  rw [reportTool, override]
  cases h : o.tool with
  | none => rfl
  | some t =>
    obtain ⟨k, hk⟩ := hc.1 t h
    cases t with
    | nil => exact absurd h hc.tool_ne
    | cons _ _ => simp only [Tool.ofValue, Option.bind_some, hk, Option.getD_some]

theorem rule_texts (ts : List Text) : Rule.list Rule.text (.list (ts.map .text)) = .ok ts := by
  rw [Rule.list_eq_ok_iff]
  refine ⟨_, rfl, ?_⟩
  induction ts with
  | nil => exact .nil
  | cons t ts ih => exact .cons rfl ih

/-- The options of a report are read like settings, with the settings as their defaults. -/
theorem reads_report {o : ReportOptions} (hc : (report o).IsNaming) (s : Settings) :
    ReportSettings.Reads s.report (setting? (report o).given "report")
      ((report o).override s).report where
  dialect := by
    rw [(setting?_given_report o).2.1]
    exact reportDialect_eq_ok_iff.mp (reportDialect_eq_ok hc s)
  tool := by
    rw [(setting?_given_report o).1]
    exact (reportTool_eq_ok_iff hc.tool_ne).mp (reportTool_eq_ok hc s)
  output := by
    rw [(setting?_given_report o).2.2, override]
    cases o.out <;> rfl

theorem reads_output (o : ReportOptions) (s : Settings) :
    OutputSettings.Reads s.output (setting? (report o).given "output")
      ((report o).override s).output := by
  obtain ⟨_, _, _, _, quiet, _⟩ := o
  cases quiet <;> exact ⟨rfl, rfl, rfl⟩

theorem reads_pipeline (o : ProcessOptions) (s : Settings) :
    PipelineSettings.Reads s.pipeline (setting? (process o).given "pipeline")
      ((process o).override s).pipeline where
  stages := by
    rw [(setting?_given_process o).1, override]
    cases o.stages with
    | nil => rfl
    | cons t ts => exact rule_texts (t :: ts)
  minimize := by
    rw [(setting?_given_process o).2, override]
    cases o.noMinimize
    · exact Bool.and_true _
    · exact congrArg Check.ok (Bool.and_false _).symm

/-- A table with the options of a command in it means the settings under these options. -/
theorem rule_of_puts (hc : c.IsNaming) (htable : rule (.object table) = .ok s)
    (hputs : c.Puts table table') : rule (.object table') = .ok (c.override s) := by
  obtain ⟨-, hreport, hpipeline, houtput⟩ := rule_eq_ok_iff.mp htable
  refine rule_eq_ok_iff.mpr ⟨hputs.tidy, ?_⟩
  have hsection : ∀ section_, setting? table' section_ =
      fun key => (setting? c.given section_ key).or (setting? table section_ key) :=
    fun section_ => funext (hputs.setting section_)
  constructor <;> rw [hsection]
  · refine hreport.over ?_
    cases c with
    | report o => exact reads_report hc s
    | _ => exact ReportSettings.reads_none_iff.mpr rfl
  · refine hpipeline.over ?_
    cases c with
    | process o => exact reads_pipeline o s
    | _ => exact PipelineSettings.reads_none_iff.mpr rfl
  · refine houtput.over ?_
    cases c with
    | report o => exact reads_output o s
    | _ => exact OutputSettings.reads_none_iff.mpr rfl

/-! ### Two runs -/

/-- Two commands end in the same way, after the same writes to the files that each of them saw. -/
inductive SameEnding (fs fs' : Files) : Ending → Ending → Prop
  | same (exitCode : Nat) (screen : Text) (ws : List (Place × Node)) (fault : Option Fault) :
    SameEnding fs fs' ⟨exitCode, screen, fs.putAll ws, fault⟩ ⟨exitCode, screen, fs'.putAll ws, fault⟩

theorem SameEnding.unwritten (fs fs' : Files) (exitCode : Nat) (screen : Text)
    (fault : Option Fault) :
    SameEnding fs fs' ⟨exitCode, screen, fs, fault⟩ ⟨exitCode, screen, fs', fault⟩ :=
  .same exitCode screen [] fault

theorem sameEnding_stopped_putAll (ws : List (Place × Node)) (screen : Text) (emoji : Bool)
    (f : Fault) : SameEnding fs fs' (stopped w (fs.putAll ws) screen emoji f)
      (stopped w (fs'.putAll ws) screen emoji f) := by
  unfold stopped
  split <;> exact .same _ _ ws _

theorem sameEnding_stopped (screen : Text) (emoji : Bool) (f : Fault) :
    SameEnding fs fs' (stopped w fs screen emoji f) (stopped w fs' screen emoji f) :=
  sameEnding_stopped_putAll [] screen emoji f

theorem sourceText_congr {source : Text}
    (h : fs.content? base (.ofText source) = fs'.content? base (.ofText source)) :
    sourceText fs base source = sourceText fs' base source := by
  rw [sourceText, sourceText, h]

theorem isUsable_congr
    (h : ∀ t ∈ c.source?, fs.content? base (.ofText t) = fs'.content? base (.ofText t)) :
    c.isUsable fs base = c.isUsable fs' base := by
  rw [isUsable, isUsable]
  cases hsource : c.source? with
  | none => rfl
  | some t => simp only [Option.all_some, isFile, h t hsource]

/-- Options do not bear on the making of a report but through the settings under them. -/
theorem prepare_bare {o : ReportOptions} (hc : (report o).IsNaming) (s : Settings)
    (named : Option Text)
    (hsource : fs.content? base (.ofText o.source) = fs'.content? base (.ofText o.source)) :
    prepare fs base s o =
      prepare fs' base ((report o).override s) { source := o.source, settings := named } := by
  rw [prepare, prepare, reportDialect_eq_ok hc, reportTool_eq_ok hc, sourceText_congr hsource]
  rfl

theorem reportScreen_bare (o : ReportOptions) (p : Prepared) (destination : Path) :
    reportScreen s.output o p destination =
      reportScreen ((report o).override s).output { source := o.source, settings := named } p
        destination :=
  rfl

theorem sameEnding_runReport {o : ReportOptions} (hc : (report o).IsNaming)
    (hs : settings fs base o.settings = .ok s)
    (hs' : settings fs' base named = .ok ((report o).override s))
    (hsource : fs.content? base (.ofText o.source) = fs'.content? base (.ofText o.source))
    (hway : ∀ d ∈ reportDestination s o, Files.Alike (Files.wayTo base d) fs fs') :
    SameEnding fs fs' (runReport w fs base o)
      (runReport w fs' base { source := o.source, settings := named }) := by
  have hprepare := prepare_bare hc s named hsource
  have hemoji : ((report o).override s).output.emoji = s.output.emoji := rfl
  simp only [runReport, hs, hs', ← hprepare, hemoji]
  cases hp : prepare fs base s o with
  | error f => exact sameEnding_stopped _ _ f
  | ok p =>
    obtain ⟨_, _, hprepares⟩ := (prepare_eq_ok_iff hs).mp hp
    rw [← hprepares.destination_eq] at hway
    cases hdestination : p.destination with
    | none =>
      simp only [hdestination]
      exact .unwritten fs fs' _ _ _
    | some d =>
      have hsame := Files.sameEnds_save (hway d hdestination) (Xml.octets true p.document)
      simp only [hdestination, ← reportScreen_bare]
      generalize fs.save base d (Xml.octets true p.document) = r at hsame
      generalize fs'.save base d (Xml.octets true p.document) = r' at hsame
      cases hsame with
      | error f ws => exact sameEnding_stopped_putAll ws _ _ f
      | ok ws =>
        cases reportScreen s.output o p d with
        | mk screen fault =>
          cases fault with
          | none => exact .same 0 screen ws none
          | some f => exact .same 1 screen ws (some f)

theorem processChain_bare (s : Settings) (o : ProcessOptions) (named : Option Text) :
    processChain s o =
      processChain ((process o).override s)
        { source := o.source, out := o.out, settings := named } :=
  rfl

theorem processResource_bare (s : Settings) (o : ProcessOptions) (named : Option Text) :
    processResource s o =
      processResource ((process o).override s)
        { source := o.source, out := o.out, settings := named } := by
  simp only [processResource, override, Bool.not_false, Bool.and_true]

theorem sameEnding_runProcess {o : ProcessOptions} (hs : settings fs base o.settings = .ok s)
    (hs' : settings fs' base named = .ok ((process o).override s))
    (hsource : fs.content? base (.ofText o.source) = fs'.content? base (.ofText o.source))
    (hway : ∀ d ∈ o.out.map Path.ofText, Files.Alike (Files.wayTo base d) fs fs') :
    SameEnding fs fs' (runProcess w fs base o)
      (runProcess w fs' base { source := o.source, out := o.out, settings := named }) := by
  have hresource := processResource_bare s o named
  have hchain := processChain_bare s o named
  have houtput : ((process o).override s).output = s.output := rfl
  simp only [runProcess, hs, hs', ← hresource, ← hchain, houtput, ← sourceText_congr hsource]
  split
  · exact sameEnding_stopped _ _ _
  · next r c _ =>
    split
    · exact sameEnding_stopped _ _ _
    · next t _ =>
      cases hout : o.out with
      | none => exact .unwritten fs fs' _ _ _
      | some out =>
        rw [hout] at hway
        have hsame := Files.sameEnds_save (hway _ rfl) (Utf8.encode t)
        simp only
        generalize fs.save base (.ofText out) (Utf8.encode t) = u at hsame
        generalize fs'.save base (.ofText out) (Utf8.encode t) = u' at hsame
        cases hsame with
        | error f ws => exact sameEnding_stopped_putAll ws _ _ f
        | ok ws => exact .same 0 _ ws none

/-! ### All commands -/

def destination? (s : Settings) : Command → Option Path
  | report o => reportDestination s o
  | process o => o.out.map .ofText
  | stages | help => none

theorem sameEnding_run (hc : c.IsNaming) (hs : settings fs base c.settingsFile? = .ok s)
    (hs' : settings fs' base named = .ok (c.override s))
    (hsource : ∀ t ∈ c.source?, fs.content? base (.ofText t) = fs'.content? base (.ofText t))
    (hway : ∀ d ∈ c.destination? s, Files.Alike (Files.wayTo base d) fs fs') :
    SameEnding fs fs' (c.run w fs base) ((c.bare named).run w fs' base) := by
  cases c with
  | report o => exact sameEnding_runReport hc hs hs' (hsource _ rfl) hway
  | process o => exact sameEnding_runProcess hs hs' (hsource _ rfl) hway
  | stages => exact .unwritten fs fs' _ _ _
  | help => exact .unwritten fs fs' _ _ _

theorem source?_bare (named : Option Text) (c : Command) : (c.bare named).source? = c.source? := by
  cases c <;> rfl

/-- A command ends as it does without its options when what they say is in the settings instead, put
into any table that means the settings of the first run. Its settings are then those of the first run
under the options, so that options come before whatever is set. The two runs see the same source, and
files that differ, if at all, in what is in them or off the way to the destination. -/
theorem sameEnding_execute {args args' : List Text} (hargs : parse args = some c)
    (hargs' : parse args' = some (c.bare named)) (hc : c.IsNaming)
    (hs : settings fs base c.settingsFile? = .ok s) (htable : rule (.object table) = .ok s)
    (hputs : c.Puts table table')
    (htable' : Configures fs' base base (named.map .ofText) table')
    (hsource : ∀ t ∈ c.source?, fs.content? base (.ofText t) = fs'.content? base (.ofText t))
    (hway : ∀ d ∈ c.destination? s, Files.Alike (Files.wayTo base d) fs fs') :
    settings fs' base named = .ok (c.override s) ∧
      SameEnding fs fs' (execute w fs base args) (execute w fs' base args') := by
  have hs' : settings fs' base named = .ok (c.override s) :=
    load_of_configures htable' (rule_of_puts hc htable hputs)
  refine ⟨hs', ?_⟩
  have husable : (c.bare named).isUsable fs' base = c.isUsable fs base := by
    rw [isUsable_congr hsource, isUsable, source?_bare, isUsable]
  simp only [execute, hargs, hargs', husable]
  split
  · exact sameEnding_run hc hs hs' hsource hway
  · exact .unwritten fs fs' _ _ _

/-! A report of a finding about a stylesheet that is written without a summary, by options and by
settings. -/

def quietOptions : ReportOptions :=
  { source := "a.json", tool := some "csslint", dialect := some "PLAIN", out := some "r.xml",
    quiet := true }

def quietText : Text :=
  "[report]\ntool = \"csslint\"\ndialect = \"PLAIN\"\noutput = \"r.xml\"\n\n" ++
    "[output]\nquiet = true\n"

def quietFiles : Files :=
  emptyRuleFiles.put [fileName] (.file (Utf8.encode quietText))

theorem puts_quiet : (report quietOptions).Puts [] (report quietOptions).given where
  tidy := by
    refine ⟨by decide, ?_, ?_, ?_⟩
    · rintro v ⟨⟩
      exact ⟨_, rfl, by decide⟩
    · rintro v ⟨⟩
    · rintro v ⟨⟩
      exact ⟨_, rfl, by decide⟩
  setting := fun _ _ => (Option.or_none).symm

theorem configures_quiet :
    Configures quietFiles ⟨.single, []⟩ ⟨.single, []⟩ none (report quietOptions).given := by
  have hread : Toml.read quietText = .ok (report quietOptions).given := by
    cbv
  exact .whole (.own rfl) rfl (table_of_encode (by decide) hread)

theorem alike_quiet :
    Files.Alike (Files.wayTo ⟨.single, []⟩ (.ofText "r.xml")) emptyRuleFiles quietFiles :=
  Files.alike_put (by decide) (fun h => absurd h (by decide)) _

theorem sameEnding_execute_quiet :
    settings quietFiles ⟨.single, []⟩ none = .ok ((report quietOptions).override {}) ∧
      SameEnding emptyRuleFiles quietFiles
        (execute ⟨fun _ _ => [], []⟩ emptyRuleFiles ⟨.single, []⟩
          ["report", "a.json", "--tool", "csslint", "--dialect", "PLAIN", "--out", "r.xml", "-q"])
        (execute ⟨fun _ _ => [], []⟩ quietFiles ⟨.single, []⟩ ["report", "a.json"]) := by
  have hnaming : (report quietOptions).IsNaming := by
    refine ⟨?_, ?_⟩
    · rintro t ⟨⟩
      exact ⟨.cssLint, by decide⟩
    · rintro t ⟨⟩
      exact ⟨.plain, by decide⟩
  refine sameEnding_execute (c := report quietOptions) rfl rfl hnaming rfl rfl puts_quiet
    configures_quiet ?_ ?_
  · rintro t ⟨⟩
    rfl
  · rintro d ⟨⟩
    exact alike_quiet

end WebLint.Command
