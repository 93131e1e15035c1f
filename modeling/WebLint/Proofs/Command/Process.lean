import WebLint.Proofs.Command.Refusal
import WebLint.Proofs.Command.Report

namespace WebLint

/-! ### Line ends -/

theorem ne_of_mem_universalNewlines {t : Text} {c : Code} (h : c ∈ t.universalNewlines) :
    c.val ≠ 0xd := by
  have hfeed : lineFeed.val ≠ 0xd := by decide
  fun_induction Text.universalNewlines t with
  | case1 => cases h
  | case2 d hd =>
    obtain rfl := List.mem_singleton.mp h
    exact hfeed
  | case3 d hd =>
    obtain rfl := List.mem_singleton.mp h
    exact hd
  | case4 d e r _ _ ih =>
    obtain rfl | h := List.mem_cons.mp h
    · exact hfeed
    · exact ih h
  | case5 d e r _ _ ih =>
    obtain rfl | h := List.mem_cons.mp h
    · exact hfeed
    · exact ih h
  | case6 d e r hd ih =>
    obtain rfl | h := List.mem_cons.mp h
    · exact hd
    · exact ih h

theorem encode_universalNewlines_eq_iff {octets : Octets} {t : Text}
    (h : Utf8.decode octets = .ok t) :
    Utf8.encode t.universalNewlines = octets ↔ (0x0d : UInt8) ∉ octets := by
  have hreturn {u : Text} : (0x0d : UInt8) ∈ Utf8.encode u ↔ ∃ c ∈ u, 0xd = c.val :=
    Utf8.mem_encode_iff (by decide)
  obtain ⟨-, rfl⟩ := Utf8.encode_decode h
  constructor
  · intro heq hmem
    rw [← heq] at hmem
    obtain ⟨c, hc, hval⟩ := hreturn.mp hmem
    exact ne_of_mem_universalNewlines hc hval.symm
  · intro hmem
    have hplain : ∀ c ∈ t, c.val ≠ 0xd := fun c hc hval => hmem (hreturn.mpr ⟨c, hc, hval.symm⟩)
    rw [Xml.universalNewlines_eq hplain]

namespace Builtin

theorem transformAll_idle {r : Resource} {bs : List Builtin} (h : ∀ b ∈ bs, b.worksOn r = false)
    (t : Text) : transformAll r bs t = t := by
  have hfilter : bs.filter (·.worksOn r) = [] := by
    rw [List.filter_eq_nil_iff]
    intro b hb
    rw [h b hb]
    exact Bool.false_ne_true
  rw [transformAll, hfilter]
  rfl

end Builtin

namespace Command

variable {w : Fault.Wording} {fs : Files} {base : Path} {o : ProcessOptions} {s : Settings}
  {r : Resource} {bs : List Builtin} {octets : Octets} {t : Text}

/-- What a process command reads until its stages start: the settings, the resource, the stages and
the text of the source. -/
structure Processes (fs : Files) (base : Path) (o : ProcessOptions) (s : Settings) (r : Resource)
    (bs : List Builtin) (octets : Octets) (t : Text) : Prop where
  settings_eq : settings fs base o.settings = .ok s
  resource_eq : processResource s o = .ok r
  names : List.Forall₂ Builtin.Names (if o.stages.isEmpty then s.pipeline.stages else o.stages) bs
  content_eq : fs.content? base (.ofText o.source) = some octets
  decode_eq : Utf8.decode octets = .ok t

theorem sourceText_eq_ok {source u : Text} (h : sourceText fs base source = .ok u) :
    ∃ octets t, fs.content? base (.ofText source) = some octets ∧ Utf8.decode octets = .ok t ∧
      u = t.universalNewlines := by
  cases hcontent : fs.content? base (.ofText source) with
  | none =>
    simp only [sourceText, hcontent] at h
    cases h
  | some octets =>
    cases hdecode : Utf8.decode octets with
    | error e =>
      simp only [sourceText, hcontent, hdecode] at h
      cases h
    | ok t =>
      simp only [sourceText, hcontent, hdecode] at h
      cases h
      exact ⟨octets, t, rfl, hdecode, rfl⟩

theorem saves_of_exitCode {out : Text} (hout : o.out = some out)
    (h : (runProcess w fs base o).exitCode = 0) :
    ∃ s r bs octets t, Processes fs base o s r bs octets t ∧
      fs.save base (.ofText out) (Utf8.encode (Builtin.transformAll r bs t.universalNewlines)) =
        .ok (runProcess w fs base o).files := by
  cases hs : settings fs base o.settings with
  | error f => simp [runProcess, hs, exitCode_stopped] at h
  | ok s =>
    cases hr : processResource s o with
    | error f => simp [runProcess, hs, hr, exitCode_stopped, bind, Except.bind] at h
    | ok r =>
      cases hc : processChain s o with
      | error f => simp [runProcess, hs, hr, hc, exitCode_stopped, bind, Except.bind] at h
      | ok c =>
        cases ht : sourceText fs base o.source with
        | error f =>
          simp [runProcess, hs, hr, hc, ht, exitCode_stopped, bind, Except.bind, pure,
            Except.pure] at h
        | ok u =>
          obtain ⟨bs, hnames, rfl⟩ := names_of_processChain hc
          obtain ⟨octets, t, hcontent, hdecode, rfl⟩ := sourceText_eq_ok ht
          obtain ⟨log, hrun⟩ := Chain.run_ofBuiltins r bs t.universalNewlines ()
          refine ⟨s, r, bs, octets, t, ⟨hs, hr, hnames, hcontent, hdecode⟩, ?_⟩
          simp only [runProcess, hs, hr, hc, ht, hrun, hout, bind, Except.bind, pure,
            Except.pure] at h ⊢
          cases hsave : fs.save base (.ofText out)
            (Utf8.encode (Builtin.transformAll r bs t.universalNewlines)) with
          | error f => simp [hsave, exitCode_stopped] at h
          | ok fs' => rfl

/-- A process command that succeeds leaves at its destination what the stages that work on the
resource make of the source with line feeds as line ends. If none of them works on it, the
destination holds the octets of the source unless there is a carriage return among them. -/
theorem execute_process_writes {args : List Text} {out : Text}
    (hargs : parse args = some (.process o)) (hout : o.out = some out)
    (h : (execute w fs base args).exitCode = 0) :
    ∃ s r bs octets t, Processes fs base o s r bs octets t ∧
      (execute w fs base args).files.content? base (.ofText out) =
        some (Utf8.encode (Builtin.transformAll r bs t.universalNewlines)) ∧
      ((∀ b ∈ bs, b.worksOn r = false) →
        (execute w fs base args).files.content? base (.ofText out) =
          some (Utf8.encode t.universalNewlines) ∧
        ((execute w fs base args).files.content? base (.ofText out) = some octets ↔
          (0x0d : UInt8) ∉ octets)) := by
  have husable : (process o).isUsable fs base = true := by
    by_contra hunusable
    simp [execute, hargs, hunusable] at h
  have hrun : execute w fs base args = runProcess w fs base o := by
    simp [execute, hargs, husable, run]
  rw [hrun] at h ⊢
  obtain ⟨s, r, bs, octets, t, hprocesses, hsave⟩ := saves_of_exitCode hout h
  have hcontent := Files.content?_of_save hsave
  refine ⟨s, r, bs, octets, t, hprocesses, hcontent, fun hidle => ?_⟩
  rw [Builtin.transformAll_idle hidle] at hcontent
  refine ⟨hcontent, ?_⟩
  rw [hcontent, Option.some_inj]
  exact encode_universalNewlines_eq_iff hprocesses.decode_eq

/-! A script with carriage returns, copied by a command without stages. -/

def returnsFiles : Files :=
  ⟨[(["app.js"], .file (Utf8.encode "a\x0d\nb\x0d\n")),
    (["assetqa.toml"], .file (Utf8.encode "[pipeline]\nstages = []\n"))]⟩

def returnsOptions : ProcessOptions := { source := "app.js", out := some "copy.js" }

theorem parse_returns :
    parse ["process", "app.js", "--out", "copy.js"] = some (.process returnsOptions) :=
  rfl

theorem execute_process_writes_returns :
    ∃ s r bs octets t, Processes returnsFiles ⟨.single, []⟩ returnsOptions s r bs octets t ∧
      (execute ⟨fun _ _ => [], []⟩ returnsFiles ⟨.single, []⟩
        ["process", "app.js", "--out", "copy.js"]).files.content? ⟨.single, []⟩
          (.ofText "copy.js") =
        some (Utf8.encode (Builtin.transformAll r bs t.universalNewlines)) ∧
      ((∀ b ∈ bs, b.worksOn r = false) →
        (execute ⟨fun _ _ => [], []⟩ returnsFiles ⟨.single, []⟩
          ["process", "app.js", "--out", "copy.js"]).files.content? ⟨.single, []⟩
            (.ofText "copy.js") = some (Utf8.encode t.universalNewlines) ∧
        ((execute ⟨fun _ _ => [], []⟩ returnsFiles ⟨.single, []⟩
          ["process", "app.js", "--out", "copy.js"]).files.content? ⟨.single, []⟩
            (.ofText "copy.js") = some octets ↔ (0x0d : UInt8) ∉ octets)) :=
  execute_process_writes parse_returns rfl (by decide +kernel)

theorem not_copied_returns :
    (settings returnsFiles ⟨.single, []⟩ none).toOption = some { pipeline := { stages := [] } } ∧
      (execute ⟨fun _ _ => [], []⟩ returnsFiles ⟨.single, []⟩
        ["process", "app.js", "--out", "copy.js"]).exitCode = 0 ∧
      (execute ⟨fun _ _ => [], []⟩ returnsFiles ⟨.single, []⟩
        ["process", "app.js", "--out", "copy.js"]).files.content? ⟨.single, []⟩
          (.ofText "copy.js") = some (Utf8.encode "a\nb\n") ∧
      returnsFiles.content? ⟨.single, []⟩ (.ofText "app.js") =
        some (Utf8.encode "a\x0d\nb\x0d\n") ∧
      Utf8.encode "a\nb\n" ≠ Utf8.encode "a\x0d\nb\x0d\n" := by
  refine ⟨by decide +kernel, by decide +kernel, by decide +kernel, rfl, by decide⟩

end Command

end WebLint
