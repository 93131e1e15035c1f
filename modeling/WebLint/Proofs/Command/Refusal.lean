import WebLint.Proofs.Chain.Named
import WebLint.Proofs.Unforeseen

namespace WebLint.Command

variable {w : Fault.Wording} {fs : Files} {base : Path}

/-- Why a command is refused, and whether its message bears a symbol: settings that cannot be read
do not tell, so that the symbol is there. -/
inductive Refuses (fs : Files) (base : Path) : Command → (emoji : Bool) → Fault → Prop
  | reportSettings {o : ReportOptions} {f : Fault} (h : settings fs base o.settings = .error f) :
    Refuses fs base (.report o) true f
  | dialect {o : ReportOptions} {s : Settings} {f : Fault}
    (hs : settings fs base o.settings = .ok s) (h : reportDialect s o = .error f) :
    Refuses fs base (.report o) s.output.emoji f
  | tool {o : ReportOptions} {s : Settings} {d : Dialect} {f : Fault}
    (hs : settings fs base o.settings = .ok s) (hd : reportDialect s o = .ok d)
    (h : reportTool s o = .error f) : Refuses fs base (.report o) s.output.emoji f
  | payload {o : ReportOptions} {s : Settings} {d : Dialect} {tool : Tool} {t : Text} {f : Fault}
    (hs : settings fs base o.settings = .ok s) (hd : reportDialect s o = .ok d)
    (htool : reportTool s o = .ok tool) (ht : sourceText fs base o.source = .ok t)
    (h : adaptText tool t = .error f) : Refuses fs base (.report o) s.output.emoji f
  | processSettings {o : ProcessOptions} {f : Fault} (h : settings fs base o.settings = .error f) :
    Refuses fs base (.process o) true f
  | resource {o : ProcessOptions} {s : Settings} {f : Fault}
    (hs : settings fs base o.settings = .ok s) (h : processResource s o = .error f) :
    Refuses fs base (.process o) s.output.emoji f
  | stages {o : ProcessOptions} {s : Settings} {r : Resource} {f : Fault}
    (hs : settings fs base o.settings = .ok s) (hr : processResource s o = .ok r)
    (h : processChain s o = .error f) : Refuses fs base (.process o) s.output.emoji f

inductive Ends (w : Fault.Wording) (fs : Files) (base : Path) (c : Command) : Ending → Prop
  | well {screen : Text} {fs' : Files} : Ends w fs base c ⟨0, screen, fs', none⟩
  | refused {emoji : Bool} {f : Fault} (h : Refuses fs base c emoji f)
    (hf : f.isExpected = true) :
    Ends w fs base c ⟨1, Notice.failure.text emoji (f.messageWith w), fs, none⟩
  | broken {screen : Text} {fs' : Files} {f : Fault} (hf : f.isExpected = false) :
    Ends w fs base c ⟨1, screen, fs', some f⟩

theorem ends_of_unexpected {c : Command} {f : Fault} (hf : f.isExpected = false) (fs' : Files)
    (screen : Text) (emoji : Bool) : Ends w fs base c (stopped w fs' screen emoji f) := by
  rw [stopped, hf]
  exact .broken hf

theorem ends_of_refuses {c : Command} {emoji : Bool} {f : Fault}
    (h : f.isExpected = true → Refuses fs base c emoji f) :
    Ends w fs base c (stopped w fs [] emoji f) := by
  cases hf : f.isExpected with
  | false => exact ends_of_unexpected hf fs [] emoji
  | true =>
    rw [stopped, hf]
    exact .refused (h hf) hf

/-! ### Reports -/

theorem refuses_of_prepare {o : ReportOptions} {s : Settings} {f : Fault}
    (hs : settings fs base o.settings = .ok s) (h : prepare fs base s o = .error f)
    (hf : f.isExpected = true) : Refuses fs base (.report o) s.output.emoji f := by
  rw [prepare] at h
  rcases bind_eq_error_iff.mp h with hd | ⟨d, hd, h⟩
  · exact .dialect hs hd
  rcases bind_eq_error_iff.mp h with htool | ⟨tool, htool, h⟩
  · exact .tool hs hd htool
  rcases bind_eq_error_iff.mp h with ht | ⟨t, ht, h⟩
  · exact absurd hf (ne_true_of_eq_false (unforeseen_sourceText fs base o.source f ht))
  rcases bind_eq_error_iff.mp h with hreport | ⟨r, -, h⟩
  · exact .payload hs hd htool ht hreport
  rcases bind_eq_error_iff.mp h with hroot | ⟨root, -, h⟩
  · exact absurd hf (ne_true_of_eq_false (r.unforeseen_toElement d f hroot))
  · cases h

theorem unexpected_of_reportScreen {s : OutputSettings} {o : ReportOptions} {p : Prepared}
    {destination : Path} {screen : Text} {f : Fault}
    (h : reportScreen s o p destination = (screen, some f)) : f.isExpected = false := by
  simp only [reportScreen] at h
  split at h
  · cases h
  · split at h
    · next f' hheading =>
      cases h
      exact Section.unforeseen_heading _ _ f hheading
    · split at h
      · next f' hsummary =>
        cases h
        exact Report.unforeseen_summary _ _ f hsummary
      · cases h

theorem ends_runReport (w : Fault.Wording) (fs : Files) (base : Path) (o : ReportOptions) :
    Ends w fs base (.report o) (runReport w fs base o) := by
  cases hs : settings fs base o.settings with
  | error f =>
    simp only [runReport, hs]
    exact ends_of_refuses fun _ => .reportSettings hs
  | ok s =>
    cases hp : prepare fs base s o with
    | error f =>
      simp only [runReport, hs, hp]
      exact ends_of_refuses (refuses_of_prepare hs hp)
    | ok p =>
      cases hdestination : p.destination with
      | none =>
        simp only [runReport, hs, hp, hdestination]
        exact .well
      | some destination =>
        cases hsave : fs.save base destination (Xml.octets true p.document) with
        | error e =>
          simp only [runReport, hs, hp, hdestination, hsave]
          exact ends_of_unexpected (Files.unforeseen_of_save hsave) _ _ _
        | ok fs' =>
          simp only [runReport, hs, hp, hdestination, hsave]
          split
          · exact .well
          · next f hscreen => exact .broken (unexpected_of_reportScreen hscreen)

/-! ### Processing -/

theorem names_of_processChain {s : Settings} {o : ProcessOptions} {c : Chain Unit}
    (h : processChain s o = .ok c) :
    ∃ bs, List.Forall₂ Builtin.Names
      (if o.stages.isEmpty then s.pipeline.stages else o.stages) bs ∧ c = Chain.ofBuiltins bs := by
  rw [processChain] at h
  obtain ⟨bs, hbs⟩ | ⟨before, bs, n, behind, hnames, hbefore, hn⟩ := Chain.names_or_unnamed
    (if o.stages.isEmpty then s.pipeline.stages else o.stages)
  · rw [Chain.ofNames_of_names hbs] at h
    cases h
    exact ⟨bs, hbs, rfl⟩
  · rw [hnames, Chain.ofNames_of_unnamed hbefore hn] at h
    cases h

theorem exists_run_of_processChain {s : Settings} {o : ProcessOptions} {c : Chain Unit}
    (h : processChain s o = .ok c) (r : Resource) (t : Text) :
    ∃ t', (c.run r t ()).result = .ok t' := by
  obtain ⟨bs, -, rfl⟩ := names_of_processChain h
  obtain ⟨log, hrun⟩ := Chain.run_ofBuiltins r bs t ()
  exact ⟨_, congrArg Outcome.result hrun⟩

theorem ends_runProcess (w : Fault.Wording) (fs : Files) (base : Path) (o : ProcessOptions) :
    Ends w fs base (.process o) (runProcess w fs base o) := by
  cases hs : settings fs base o.settings with
  | error f =>
    simp only [runProcess, hs]
    exact ends_of_refuses fun _ => .processSettings hs
  | ok s =>
    cases hr : processResource s o with
    | error f =>
      simp only [runProcess, hs, hr, bind, Except.bind]
      exact ends_of_refuses fun _ => .resource hs hr
    | ok r =>
      cases hc : processChain s o with
      | error f =>
        simp only [runProcess, hs, hr, hc, bind, Except.bind]
        exact ends_of_refuses fun _ => .stages hs hr hc
      | ok c =>
        cases ht : sourceText fs base o.source with
        | error f =>
          simp only [runProcess, hs, hr, hc, ht, bind, Except.bind, pure, Except.pure]
          exact ends_of_unexpected (unforeseen_sourceText fs base o.source f ht) _ _ _
        | ok t =>
          obtain ⟨t', hrun⟩ := exists_run_of_processChain hc r t
          simp only [runProcess, hs, hr, hc, ht, hrun, bind, Except.bind, pure, Except.pure]
          split
          · exact .well
          · split
            · next hsave => exact ends_of_unexpected (Files.unforeseen_of_save hsave) _ _ _
            · exact .well

/-! ### All commands -/

theorem ends_run (w : Fault.Wording) (fs : Files) (base : Path) (c : Command) :
    Ends w fs base c (c.run w fs base) := by
  cases c with
  | report o => exact ends_runReport w fs base o
  | process o => exact ends_runProcess w fs base o
  | stages => exact .well
  | help => exact .well

/-- A command with exit code 1 that leaves no fault behind was refused: it has printed the message
of the cause and nothing else, and all files are as they were. A fault that it leaves behind is not
one that is expected. -/
theorem execute_refused_iff (w : Fault.Wording) (fs : Files) (base : Path) (args : List Text) :
    ((execute w fs base args).exitCode = 1 ∧ (execute w fs base args).fault = none ↔
      ∃ c emoji f, parse args = some c ∧ c.isUsable fs base = true ∧ Refuses fs base c emoji f ∧
        f.isExpected = true ∧ execute w fs base args =
          ⟨1, Notice.failure.text emoji (f.messageWith w), fs, none⟩) ∧
    ∀ f, (execute w fs base args).fault = some f → f.isExpected = false := by
  cases hparse : parse args with
  | none => simp [execute, hparse]
  | some c =>
    cases husable : c.isUsable fs base with
    | false => simp [execute, hparse, husable]
    | true =>
      have hrun : execute w fs base args = c.run w fs base := by simp [execute, hparse, husable]
      rw [hrun]
      generalize hending : c.run w fs base = e
      have hends : Ends w fs base c e := hending ▸ ends_run w fs base c
      cases hends with
      | well => simp
      | @refused emoji f h hf =>
        refine ⟨⟨fun _ => ⟨c, emoji, f, rfl, husable, h, hf, rfl⟩, fun _ => ⟨rfl, rfl⟩⟩, ?_⟩
        intro f' hf'
        cases hf'
      | broken hf =>
        refine ⟨⟨fun h => ?_, fun ⟨_, _, _, _, _, _, _, h⟩ => ?_⟩, ?_⟩
        · cases h.2
        · cases h
        · intro f' hf'
          cases hf'
          exact hf

example : (execute ⟨fun _ _ => [], []⟩ ⟨[(["a.css"], .file [])]⟩ ⟨.single, []⟩
    ["process", "a.css", "-s", "uglify"]).screen = "❌ unknown processor 'uglify' " ++
      "(known: collapse-whitespace, semicolon-append, strip-comments, trim-lines)\n" := by
  decide +kernel

end WebLint.Command
