import WebLint.Command
import WebLint.Proofs.Document.Controls
import WebLint.Proofs.Files

namespace WebLint

open Xml

/-! ### Formatters -/

/-- A formatter has a document, for files as well as for streams. -/
structure Formatter.Gives (f : Formatter) (doc : Octets) : Prop where
  write : f.write = .ok doc
  save : ∀ fs base p, f.save fs base p = (fs.save base p doc).mapError Prod.fst
  content? : ∀ fs base p fs', f.save fs base p = .ok fs' → fs'.content? base p = some doc

theorem Formatter.gives_of_write {f : Formatter} {doc : Octets} (h : f.write = .ok doc) :
    f.Gives doc := by
  have hsave : ∀ fs base p, f.save fs base p = (fs.save base p doc).mapError Prod.fst := by
    intro fs base p
    rw [save, h]
    rfl
  refine ⟨h, hsave, fun fs base p fs' hfs => ?_⟩
  rw [hsave] at hfs
  cases hdoc : fs.save base p doc with
  | error e =>
    rw [hdoc] at hfs
    cases hfs
  | ok fs₁ =>
    rw [hdoc] at hfs
    cases hfs
    exact Files.content?_of_save hdoc

theorem Formatter.gives_octets {r : Report} {d : Dialect} {root : Element}
    (h : r.toElement d = .ok root) : (Formatter.mk r d).Gives (octets true root) := by
  apply gives_of_write
  rw [write, h]
  rfl

def Tool.formatter (tool : Tool) (t : Text) (dialect : Value) : Except Fault Formatter :=
  match tool with
  | .linter => do
    let gs ← Payload.loadTyped .linterRecord LinterRecord.rule t
    Formatter.ofLinterGroups (some (gs.map fun g => (.text g.1, g.2))) dialect
  | .cssLint => do
    let gs ← Payload.loadTyped .cssRecord CssRecord.rule t
    Formatter.ofCssGroups (some (gs.map fun g => (.text g.1, g.2))) dialect

theorem Formatter.ofGroups_eq_ok {ρ : Type} {groups : Option (List (Value × List ρ))}
    {a : Adapter Unit ρ} {v : Value} {d : Dialect} {r : Report} (hd : Dialect.ofValue v = .ok d)
    (hr : (Adapter.report groups (some a) ()).result = .ok r) :
    ofGroups groups a v = .ok ⟨r, d⟩ := by
  rw [ofGroups, hd, hr]
  rfl

theorem Tool.formatter_eq_ok {tool : Tool} {t : Text} {v : Value} {d : Dialect} {r : Report}
    (hd : Dialect.ofValue v = .ok d) (hr : Command.adaptText tool t = .ok r) :
    tool.formatter t v = .ok ⟨r, d⟩ := by
  cases tool with
  | linter =>
    obtain ⟨gs, hgs, hr⟩ := bind_eq_ok_iff.mp hr
    exact bind_eq_ok_iff.mpr ⟨gs, hgs, Formatter.ofGroups_eq_ok hd hr⟩
  | cssLint =>
    obtain ⟨gs, hgs, hr⟩ := bind_eq_ok_iff.mp hr
    exact bind_eq_ok_iff.mpr ⟨gs, hgs, Formatter.ofGroups_eq_ok hd hr⟩

theorem Formatter.make_eq_ok {r : Report} {v : Value} {d : Dialect}
    (hd : Dialect.ofValue v = .ok d) : make (.report r) v = .ok ⟨r, d⟩ := by
  rw [make, hd]
  rfl

namespace Command

variable {w : Fault.Wording} {fs : Files} {base : Path} {o : ReportOptions} {s : Settings}
  {tool : Tool} {t : Text} {p : Prepared}

/-! ### From the options to the document -/

/-- What a report command reads and makes until its document is there. -/
structure Prepares (fs : Files) (base : Path) (o : ReportOptions) (s : Settings) (tool : Tool)
    (t : Text) (p : Prepared) : Prop where
  settings_eq : settings fs base o.settings = .ok s
  dialect_eq : reportDialect s o = .ok p.dialect
  tool_eq : reportTool s o = .ok tool
  source_eq : sourceText fs base o.source = .ok t
  report_eq : adaptText tool t = .ok p.report
  document_eq : p.report.toElement p.dialect = .ok p.document
  destination_eq : p.destination = reportDestination s o

theorem prepare_eq_ok_iff (hs : settings fs base o.settings = .ok s) :
    prepare fs base s o = .ok p ↔ ∃ tool t, Prepares fs base o s tool t p := by
  rw [prepare]
  simp only [bind_eq_ok_iff]
  constructor
  · rintro ⟨d, hd, tool, htool, t, ht, r, hr, root, hroot, h⟩
    cases h
    exact ⟨tool, t, hs, hd, htool, ht, hr, hroot, rfl⟩
  · rintro ⟨tool, t, h⟩
    refine ⟨_, h.dialect_eq, tool, h.tool_eq, t, h.source_eq, _, h.report_eq, _, h.document_eq, ?_⟩
    rw [← h.destination_eq]
    rfl

/-! ### Where the document goes -/

/-- A command ends well: what is printed is its document with a line feed behind it, less the control
sequences in it, or its document is the content of the file at the destination. -/
inductive Delivers (doc : Octets) (fs : Files) (base : Path) : Option Path → Ending → Prop
  | printed {text out : Text} (hdecode : Utf8.decode doc = .ok text)
    (hencode : Utf8.encode text = doc) (hout : Text.Strips (text ++ "\n") out) :
    Delivers doc fs base none ⟨0, out, fs, none⟩
  | written {destination : Path} {fs' : Files} {screen : Text}
    (hsave : fs.save base destination doc = .ok fs')
    (hcontent : fs'.content? base destination = some doc) :
    Delivers doc fs base (some destination) ⟨0, screen, fs', none⟩

theorem exitCode_stopped (screen : Text) (emoji : Bool) (f : Fault) :
    (stopped w fs screen emoji f).exitCode = 1 := by
  rw [stopped]
  split <;> rfl

theorem decode_document (h : Prepares fs base o s tool t p) :
    Utf8.decode (octets true p.document) = .ok (write true p.document) := by
  obtain ⟨-, hroot⟩ := Report.toElement_eq_ok_iff.mp h.document_eq
  rw [← hroot]
  exact decode_octets (Report.wellNamed_element p.dialect p.report) true

theorem delivers_of_exitCode (h : (runReport w fs base o).exitCode = 0) :
    ∃ s tool t p, Prepares fs base o s tool t p ∧
      Delivers (octets true p.document) fs base p.destination (runReport w fs base o) := by
  -- A command that stops early has exit code 1, and so has one that cannot show its summary.
  cases hs : settings fs base o.settings with
  | error f => simp [runReport, hs, exitCode_stopped] at h
  | ok s =>
    cases hp : prepare fs base s o with
    | error f => simp [runReport, hs, hp, exitCode_stopped] at h
    | ok p =>
      obtain ⟨tool, t, hprepares⟩ := (prepare_eq_ok_iff hs).mp hp
      refine ⟨s, tool, t, p, hprepares, ?_⟩
      cases hdestination : p.destination with
      | none =>
        simp only [runReport, hs, hp, hdestination]
        exact .printed (decode_document hprepares) rfl (Text.strips_withoutControls _)
      | some destination =>
        cases hsave : fs.save base destination (octets true p.document) with
        | error f => simp [runReport, hs, hp, hdestination, hsave, exitCode_stopped] at h
        | ok fs' =>
          simp only [runReport, hs, hp, hdestination, hsave] at h ⊢
          cases hscreen : reportScreen s.output o p destination with
          | mk screen fault =>
            cases fault with
            | some f => simp [hscreen] at h
            | none => exact .written hsave (Files.content?_of_save hsave)

/-! ### The other ways to the document -/

/-- Formatting the report of a payload text gives a document, and so do the formatter of its records
and the formatter of the report. -/
structure Agrees (tool : Tool) (t : Text) (r : Report) (dialect : Value) (root : Element) : Prop where
  format : Subject.format (.report r) dialect = .ok root
  records : ∃ f, tool.formatter t dialect = .ok f ∧ f.Gives (octets true root)
  report : ∃ f, Formatter.make (.report r) dialect = .ok f ∧ f.Gives (octets true root)

theorem Prepares.agrees (h : Prepares fs base o s tool t p) {v : Value}
    (hv : Dialect.ofValue v = .ok p.dialect) : Agrees tool t p.report v p.document := by
  have hgives := Formatter.gives_octets h.document_eq
  refine ⟨?_, ⟨_, Tool.formatter_eq_ok hv h.report_eq, hgives⟩, ⟨_, Formatter.make_eq_ok hv, hgives⟩⟩
  rw [Subject.format_report hv]
  exact h.document_eq

/-- A document is printed as it is if no text that the report shows controls a terminal. -/
theorem Prepares.screen_eq_iff (h : Prepares fs base o s tool t p) {text : Text} {e : Ending}
    (htext : Utf8.decode (octets true p.document) = .ok text)
    (he : Delivers (octets true p.document) fs base none e) :
    e.screen = text ++ "\n" ↔ ∀ u, p.report.Shows u → u.HasNoControls := by
  cases he with
  | @printed text' out hdecode _ hout =>
    cases hdecode.symm.trans htext
    cases (decode_document h).symm.trans htext
    obtain ⟨-, hroot⟩ := Report.toElement_eq_ok_iff.mp h.document_eq
    rw [← Report.hasNoControls_write_element_iff p.dialect p.report true, hroot,
      ← Text.hasNoControls_append_lineFeed]
    exact hout.eq_iff

/-- A report command that succeeds delivers the document to which all other ways lead as well, under
whatever name of the dialect. Without a destination it prints the document and a line feed if and only
if none of the texts that the report shows controls a terminal. -/
theorem execute_report_delivers {args : List Text} (hargs : parse args = some (.report o))
    (h : (execute w fs base args).exitCode = 0) :
    ∃ s tool t p, Prepares fs base o s tool t p ∧
      Delivers (octets true p.document) fs base p.destination (execute w fs base args) ∧
      (∀ text, Utf8.decode (octets true p.document) = .ok text → p.destination = none →
        ((execute w fs base args).screen = text ++ "\n" ↔
          ∀ u, p.report.Shows u → u.HasNoControls)) ∧
      Dialect.ofValue (.text p.dialect.name) = .ok p.dialect ∧
      ∀ v, Dialect.ofValue v = .ok p.dialect → Agrees tool t p.report v p.document := by
  have husable : (report o).isUsable fs base = true := by
    by_contra hunusable
    simp [execute, hargs, hunusable] at h
  have hrun : execute w fs base args = runReport w fs base o := by
    simp [execute, hargs, husable, run]
  rw [hrun] at h ⊢
  obtain ⟨s, tool, t, p, hprepares, hdelivers⟩ := delivers_of_exitCode h
  refine ⟨s, tool, t, p, hprepares, hdelivers, fun text htext hnone => ?_, ?_,
    fun v hv => hprepares.agrees hv⟩
  · rw [hnone] at hdelivers
    exact hprepares.screen_eq_iff htext hdelivers
  · cases p.dialect <;> rfl

/-! A finding about a stylesheet, in a file, and a command that prints its report. -/

def emptyRulePayload : Text :=
  "\x7b\"x.css\":[\x7b\"line\":3,\"message\":\"empty rule\"\x7d]\x7d"

def emptyRuleFiles : Files := ⟨[(["a.json"], .file (Utf8.encode emptyRulePayload))]⟩

def emptyRuleOptions : ReportOptions := { source := "a.json", tool := some "csslint" }

def emptyRulePrepared : Prepared :=
  let i : Item := {
    severity := none, line := some 3, column := none, reason := some "empty rule", evidence := none }
  let r : Report := ⟨[⟨"x.css", [i]⟩]⟩
  ⟨r, .checkstyle, r.element .checkstyle, none⟩

theorem sourceText_emptyRule :
    sourceText emptyRuleFiles ⟨.single, []⟩ "a.json" = .ok emptyRulePayload := by
  have hcontent : emptyRuleFiles.content? ⟨.single, []⟩ (.ofText "a.json") =
      some (Utf8.encode emptyRulePayload) := rfl
  have hdecode : Utf8.decode (Utf8.encode emptyRulePayload) = .ok emptyRulePayload :=
    Utf8.decode_encode (by decide)
  have hlines : emptyRulePayload.universalNewlines = emptyRulePayload := rfl
  simp only [sourceText, hcontent, hdecode]
  exact congrArg Except.ok hlines

theorem adaptText_emptyRule :
    adaptText .cssLint emptyRulePayload = .ok emptyRulePrepared.report := by
  have hoption : (adaptText .cssLint emptyRulePayload).toOption = some emptyRulePrepared.report := by
    decide +kernel
  cases h : adaptText .cssLint emptyRulePayload with
  | error f =>
    rw [h] at hoption
    cases hoption
  | ok r =>
    rw [h] at hoption
    cases hoption
    rfl

theorem prepares_emptyRule : Prepares emptyRuleFiles ⟨.single, []⟩ emptyRuleOptions {} .cssLint
    emptyRulePayload emptyRulePrepared where
  settings_eq := rfl
  dialect_eq := rfl
  tool_eq := rfl
  source_eq := sourceText_emptyRule
  report_eq := adaptText_emptyRule
  document_eq := Report.toElement_eq_ok_iff.mpr ⟨by decide, rfl⟩
  destination_eq := rfl

theorem parse_emptyRule :
    parse ["report", "a.json", "--tool", "csslint"] = some (.report emptyRuleOptions) :=
  rfl

theorem exitCode_emptyRule (w : Fault.Wording) :
    (execute w emptyRuleFiles ⟨.single, []⟩ ["report", "a.json", "--tool", "csslint"]).exitCode =
      0 := by
  have hs : settings emptyRuleFiles ⟨.single, []⟩ emptyRuleOptions.settings = .ok {} := rfl
  have husable : (report emptyRuleOptions).isUsable emptyRuleFiles ⟨.single, []⟩ = true := rfl
  have hprepare := (prepare_eq_ok_iff hs).mpr ⟨_, _, prepares_emptyRule⟩
  have hdestination : emptyRulePrepared.destination = none := rfl
  simp only [execute, parse_emptyRule, husable, run, runReport, hs, hprepare, hdestination, if_true]

theorem execute_report_delivers_emptyRule :
    ∃ s tool t p, Prepares emptyRuleFiles ⟨.single, []⟩ emptyRuleOptions s tool t p ∧
      Delivers (octets true p.document) emptyRuleFiles ⟨.single, []⟩ p.destination
        (execute ⟨fun _ _ => [], []⟩ emptyRuleFiles ⟨.single, []⟩
          ["report", "a.json", "--tool", "csslint"]) ∧
      (∀ text, Utf8.decode (octets true p.document) = .ok text → p.destination = none →
        ((execute ⟨fun _ _ => [], []⟩ emptyRuleFiles ⟨.single, []⟩
          ["report", "a.json", "--tool", "csslint"]).screen = text ++ "\n" ↔
          ∀ u, p.report.Shows u → u.HasNoControls)) ∧
      Dialect.ofValue (.text p.dialect.name) = .ok p.dialect ∧
      ∀ v, Dialect.ofValue v = .ok p.dialect → Agrees tool t p.report v p.document :=
  execute_report_delivers parse_emptyRule (exitCode_emptyRule _)

def redFiles : Files :=
  ⟨[(["lint.json"], .file (Utf8.encode
    "\x7b\"a.js\":[\x7b\"evidence\":\"\\u001b[31mx\"\x7d]\x7d"))]⟩

def redDocument : Text :=
  "<?xml version='1.0' encoding='utf-8'?>\n<checkstyle>\n  <file name=\"a.js\">\n" ++
    "    <error evidence=\"" ++ [Code.ofNat 0x1b] ++ "[31mx\" />\n  </file>\n</checkstyle>"

theorem not_printed_red :
    (execute ⟨fun _ _ => [], []⟩ redFiles ⟨.single, []⟩ ["report", "lint.json"]).exitCode = 0 ∧
      (execute ⟨fun _ _ => [], []⟩ redFiles ⟨.single, []⟩ ["report", "lint.json"]).screen ≠
        redDocument ++ "\n" ∧
      (execute ⟨fun _ _ => [], []⟩ redFiles ⟨.single, []⟩
        ["report", "lint.json", "--out", "r.xml"]).files.content? ⟨.single, []⟩ (.ofText "r.xml") =
          some (Utf8.encode redDocument) := by
  refine ⟨by decide +kernel, by decide +kernel, by decide +kernel⟩

end Command

end WebLint
