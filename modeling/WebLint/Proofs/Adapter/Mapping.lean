import WebLint.Proofs.Adapter.Fields
import WebLint.Proofs.Document.Elements
import WebLint.Proofs.Payload.Containment
import WebLint.Proofs.Payload.Precedence
import WebLint.Proofs.Payload.RoundTrip

namespace WebLint

namespace Payload

def named {ρ : Type} (gs : List (Group ρ)) : List (Value × List ρ) :=
  gs.map fun g => (.text g.1, g.2)

def asValues (gs : List (Group RawRecord)) : List (Group Value) :=
  gs.map fun g => (g.1, g.2.map .object)

end Payload

namespace Adapter

open Payload

variable {σ ρ ρ' : Type} {a : Adapter σ ρ} {a' : Adapter σ ρ'}

/-! ### Adapters that do the same -/

def Alike (a : Adapter σ ρ) (a' : Adapter σ ρ') (g : Value × List ρ) (g' : Value × List ρ') :
    Prop :=
  g.1 = g'.1 ∧ List.Forall₂ (fun r r' => a.adapt r = a'.adapt r') g.2 g'.2

theorem adaptRecords_congr {rs : List ρ} {rs' : List ρ'}
    (h : List.Forall₂ (fun r r' => a.adapt r = a'.adapt r') rs rs') (path : Value) (k : Nat) :
    a.adaptRecords path k rs = a'.adaptRecords path k rs' := by
  induction h generalizing k with
  | nil => rfl
  | cons hr _ ih => rw [adaptRecords, adaptRecords, hr, ih]

theorem adaptGroups_congr {gs : List (Value × List ρ)} {gs' : List (Value × List ρ')}
    (h : List.Forall₂ (Alike a a') gs gs') (htool : a.tool = a'.tool) (before : Report) :
    a.adaptGroups before gs = a'.adaptGroups before gs' := by
  induction h generalizing before with
  | nil => rfl
  | @cons g g' gs gs' hg _ ih =>
    obtain ⟨path, rs⟩ := g
    obtain ⟨_, rs'⟩ := g'
    obtain ⟨rfl, hrs⟩ := hg
    simp only [adaptGroups, adaptRecords_congr hrs, htool, ih]

theorem report_congr {gs : List (Value × List ρ)} {gs' : List (Value × List ρ')}
    (h : List.Forall₂ (Alike a a') gs gs') (htool : a.tool = a'.tool) :
    report (some gs) (some a) = report (some gs') (some a') :=
  adaptGroups_congr h htool .empty

/-! ### Adapters that never fail -/

def entryOf (f : ρ → Item) (g : Group ρ) : Entry :=
  ⟨g.1, g.2.map f⟩

theorem adapts_total (tool : Text) (f : ρ → Item) (s : σ) (rs : List ρ) :
    Adapts (ofFunction tool fun r => .ok (f r)) s rs (rs.map f) s := by
  induction rs with
  | nil => exact .nil
  | cons r rs ih => exact .cons rfl ih

theorem completes_total (tool : Text) (f : ρ → Item) (s : σ) {gs : List (Group ρ)}
    (hgs : ∀ g ∈ gs, g.1.isBlank = false) :
    Completes (ofFunction tool fun r => .ok (f r)) s (named gs) (gs.map (entryOf f)) s := by
  induction gs with
  | nil => exact .nil
  | cons g gs ih =>
    obtain ⟨hg, hgs⟩ := List.forall_mem_cons.mp hgs
    exact .cons (adapts_total tool f s g.2) hg (ih hgs)

/-- How the adaptation of groups ends if only their paths may be refused. -/
inductive Ends (f : ρ → Item) (gs : List (Group ρ)) : Except Fault Report → Prop
  | finished (h : ∀ g ∈ gs, g.1.isBlank = false) : Ends f gs (.ok ⟨gs.map (entryOf f)⟩)
  | blankPath {before after : List (Group ρ)} {g : Group ρ} (hsplit : gs = before ++ g :: after)
    (h : ∀ g ∈ before, g.1.isBlank = false) (hg : g.1.isBlank = true) :
    Ends f gs (.error (.pathInvalid (.text g.1) [⟨[.field "resource_path"], .blankPath⟩]))

theorem exists_report_total (tool : Text) (f : ρ → Item) (gs : List (Group ρ)) (s : σ) :
    ∃ x log, report (some (named gs)) (some (ofFunction tool fun r => .ok (f r))) s =
      ⟨x, s, log⟩ ∧ Ends f gs x := by
  cases hfind : gs.find? (·.1.isBlank) with
  | none =>
    have hgs : ∀ g ∈ gs, g.1.isBlank = false := fun g hg =>
      eq_false_of_ne_true (List.find?_eq_none.mp hfind g hg)
    exact ⟨_, _, report_of_course (.finished (completes_total tool f s hgs)), .finished hgs⟩
  | some g =>
    obtain ⟨hg, before, after, rfl, hbefore⟩ := List.find?_eq_some_iff_append.mp hfind
    have hbefore : ∀ g ∈ before, g.1.isBlank = false := fun g hg => by simpa using hbefore g hg
    have hcourse := Course.pathRefused (completes_total tool f s hbefore)
      (adapts_total tool f s g.2) (.blank hg) (.shown rfl) (named after)
    have hnamed : named (before ++ g :: after) =
        named before ++ (.text g.1, g.2) :: named after := by
      rw [named, List.map_append, List.map_cons]
      rfl
    rw [hnamed]
    exact ⟨_, _, report_of_course hcourse, .blankPath rfl hbefore hg⟩

end Adapter

/-! ### Records of plain fields -/

def IsOptional {α : Type} (kind : α → Value) (fs : List Field) (key : Text) : Prop :=
  ∀ v ∈ fieldOf? fs key, v = .null ∨ ∃ a, v = kind a

/-- A record of the stylesheet linter whose fields are of the types that these records name. Its
severity is no label that stands for another name. -/
structure CssRecord.IsPlain (fs : List Field) : Prop where
  line : IsOptional .int fs "line"
  col : IsOptional .int fs "col"
  message : IsOptional .text fs "message"
  evidence : IsOptional .text fs "evidence"
  type : IsOptional .text fs "type"
  rule : IsOptional .text fs "rule"
  label : ∀ t s, fieldOf? fs "type" = some (.text t) →
    Severity.ofLabel? Severity.commonAliases (.text t) = some s → s.name = t

section

variable {α : Type} {kind : α → Value} {fs : List Field} {key : Text}

theorem IsOptional.exists_eq (h : IsOptional kind fs key) :
    ∃ o, (fieldOf? fs key).getD .null = .ofOption kind o := by
  cases hv : fieldOf? fs key with
  | none => exact ⟨none, rfl⟩
  | some v =>
    obtain rfl | ⟨a, rfl⟩ := h v hv
    · exact ⟨none, rfl⟩
    · exact ⟨some a, rfl⟩

theorem fieldOf?_of_eq {a : α} (hkind : kind a ≠ .null)
    (h : (fieldOf? fs key).getD .null = .ofOption kind (some a)) :
    fieldOf? fs key = some (kind a) := by
  cases hv : fieldOf? fs key with
  | none =>
    rw [hv] at h
    exact absurd h.symm hkind
  | some v =>
    rw [hv] at h
    exact congrArg some h

theorem says_of_eq {rule : Rule α} (hrule : ∀ a, rule (kind a) = .ok a)
    (hkind : ∀ a, kind a ≠ .null) {o : Option α}
    (h : (fieldOf? fs key).getD .null = .ofOption kind o) : Says rule fs key o := by
  cases o with
  | some a => exact .value (fieldOf?_of_eq (hkind a) h) (hkind a) (hrule a)
  | none =>
    cases hv : fieldOf? fs key with
    | none => exact .missing hv
    | some v =>
      rw [hv] at h
      exact .null (hv.trans (congrArg some h))

theorem says_integer_of_eq {o : Option Int}
    (h : (fieldOf? fs key).getD .null = .ofOption .int o) : Says Rule.integer fs key o := by
  have hrule : ∀ n, Rule.integer (.int n) = .ok n := fun _ => rfl
  exact says_of_eq hrule (by simp) h

theorem says_text_of_eq {o : Option Text}
    (h : (fieldOf? fs key).getD .null = .ofOption .text o) : Says Rule.text fs key o := by
  have hrule : ∀ t, Rule.text (.text t) = .ok t := fun _ => rfl
  exact says_of_eq hrule (by simp) h

theorem isShort_of_eq {o : Option Int} (hfs : (Value.object fs).exceedsDigitLimit = false)
    (h : (fieldOf? fs key).getD .null = .ofOption .int o) : ∀ n ∈ o, IsShort n := by
  intro n hn
  rw [Option.mem_def.mp hn] at h
  have hn := Payload.exceeds_of_fieldOf? hfs (fieldOf?_of_eq (by simp) h)
  rw [Value.exceedsDigitLimit] at hn
  exact exceedsDigitLimit_eq_false_iff.mp hn

end

namespace FieldMapping

def css : FieldMapping :=
  ⟨"csslint", [("column", "col"), ("reason", "message"), ("severity", "type")]⟩

/-- Of a plain record the check and the mapping make the same finding, which may be written if the
record may. -/
theorem exists_css_item {fs : List Field} (hfs : CssRecord.IsPlain fs)
    (hshort : (Value.object fs).exceedsDigitLimit = false) :
    ∃ r, CssRecord.rule (.object fs) = .ok r ∧ css.item (.object fs) = .ok r.toItem ∧
      r.toItem.IsWritable := by
  obtain ⟨line, hline⟩ := hfs.line.exists_eq
  obtain ⟨col, hcol⟩ := hfs.col.exists_eq
  obtain ⟨message, hmessage⟩ := hfs.message.exists_eq
  obtain ⟨evidence, hevidence⟩ := hfs.evidence.exists_eq
  obtain ⟨type, htype⟩ := hfs.type.exists_eq
  obtain ⟨rule, hrule⟩ := hfs.rule.exists_eq
  have hnormal : Severity.IsNormal type := by
    rintro t rfl s hs
    exact (hfs.label t s (fieldOf?_of_eq (by simp) htype) hs).symm
  refine ⟨⟨line, col, message, evidence, type, rule⟩, CssRecord.rule_eq_ok_iff.mpr ?_,
    item_eq_ok_iff.mpr ⟨?_, ?_, ?_, ?_, ?_⟩, ?_⟩
  · exact ⟨says_integer_of_eq hline, says_integer_of_eq hcol, says_text_of_eq hmessage,
      says_text_of_eq hevidence, says_text_of_eq htype, says_text_of_eq hrule⟩
  · exact (congrArg severityText htype).trans (severityText_of_isNormal hnormal)
  · exact (congrArg (integer "line") hline).trans (integer_ofOption ..)
  · exact (congrArg (integer "column") hcol).trans (integer_ofOption ..)
  · exact (congrArg plainText hmessage).trans (plainText_ofOption _)
  · exact (congrArg plainText hevidence).trans (plainText_ofOption _)
  · exact ⟨isShort_of_eq hshort hcol, isShort_of_eq hshort hline⟩

/-- A group of plain records, with what the check and the mapping make of them. -/
def Agrees (g : Group RawRecord) (g' : Group CssRecord) : Prop :=
  g'.1 = g.1 ∧ List.Forall₂ (fun fs r => CssRecord.rule (.object fs) = .ok r ∧
    css.item (.object fs) = .ok r.toItem ∧ r.toItem.IsWritable) g.2 g'.2

theorem exists_agrees {gs : List (Group RawRecord)}
    (hgs : ∀ g ∈ gs, ∀ fs ∈ g.2, CssRecord.IsPlain fs)
    (hshort : ∀ g ∈ gs, ∀ fs ∈ g.2, (Value.object fs).exceedsDigitLimit = false) :
    ∃ checked, List.Forall₂ Agrees gs checked := by
  refine exists_forall₂_left_iff.mpr fun g hg => ?_
  obtain ⟨rs, hrs⟩ := exists_forall₂_left_iff.mpr fun fs hfs =>
    exists_css_item (hgs g hg fs hfs) (hshort g hg fs hfs)
  exact ⟨(g.1, rs), rfl, hrs⟩

theorem alike_of_agrees (σ : Type) {gs : List (Group RawRecord)} {checked : List (Group CssRecord)}
    (h : List.Forall₂ Agrees gs checked) :
    List.Forall₂ (Adapter.Alike (σ := σ) CssRecord.adapter css.adapter) (Payload.named checked)
      (Payload.named (Payload.asValues gs)) := by
  rw [Payload.named, Payload.named, Payload.asValues, List.forall₂_map_left_iff,
    List.forall₂_map_right_iff, List.forall₂_map_right_iff]
  refine h.flip.imp fun g' g hg => ⟨congrArg _ hg.1, ?_⟩
  rw [List.forall₂_map_right_iff]
  refine hg.2.flip.imp fun r fs hr => funext fun s => ?_
  have hitem : css.adapter.adapt (.object fs) s = (.ok r.toItem, s) :=
    congrArg (·, s) hr.2.1
  rw [hitem]
  rfl

theorem isWritable_of_agrees {gs : List (Group RawRecord)} {checked : List (Group CssRecord)}
    (h : List.Forall₂ Agrees gs checked) :
    Report.IsWritable ⟨checked.map (Adapter.entryOf CssRecord.toItem)⟩ := by
  refine List.forall_mem_map.mpr (forall_mem_of_forall₂ h (fun _ _ => trivial) fun g g' _ hg => ?_)
  exact List.forall_mem_map.mpr
    (forall_mem_of_forall₂ hg.2 (fun _ _ => trivial) fun _ _ _ hr => hr.2.2)

end FieldMapping

/-- Of plain records the checked road through the adapter of the stylesheet linter and the mapped
road do the same, whatever adapters remember: the same report, which can be written in every
dialect, or the refusal of the first blank path. -/
theorem report_css_eq_mapping {t : Text} {gs : List (Group RawRecord)} {σ : Type}
    (hload : Payload.load t = .ok gs) (hgs : ∀ g ∈ gs, ∀ fs ∈ g.2, CssRecord.IsPlain fs) (s : σ) :
    ∃ m checked x log,
      FieldMapping.make "csslint" [("column", "col"), ("reason", "message"),
        ("severity", "type")] = .ok m ∧
      Payload.loadTyped .cssRecord CssRecord.rule t = .ok checked ∧
      Adapter.report (some (Payload.named checked)) (some CssRecord.adapter) s = ⟨x, s, log⟩ ∧
      Adapter.report (some (Payload.named (Payload.asValues gs))) (some m.adapter) s =
        ⟨x, s, log⟩ ∧
      Adapter.Ends CssRecord.toItem checked x ∧
      ∀ report, x = .ok report → ∀ d, ∃ e, report.toElement d = .ok e := by
  obtain ⟨checked, hchecked⟩ := FieldMapping.exists_agrees hgs (Payload.exceeds_of_load hload)
  obtain ⟨x, log, hreport, hends⟩ :=
    Adapter.exists_report_total "csslint" CssRecord.toItem checked s
  have hsame := Adapter.report_congr (FieldMapping.alike_of_agrees σ hchecked) rfl
  refine ⟨FieldMapping.css, checked, x, log, rfl, ?_, hreport, ?_, hends, ?_⟩
  · rw [Payload.loadTyped, bind_eq_ok_iff]
    refine ⟨gs, hload, Payload.mapM_checkGroup_eq_ok_iff.mpr (hchecked.imp fun g g' hg => ?_)⟩
    exact ⟨hg.1, hg.2.imp fun _ _ hr => hr.1⟩
  · exact (congrFun hsame s).symm.trans hreport
  · rintro report rfl d
    cases hends with
    | finished =>
      exact ⟨_, Report.toElement_eq_ok_iff.mpr ⟨FieldMapping.isWritable_of_agrees hchecked, rfl⟩⟩

namespace CssRecord

/-- A record with a label that is a usual name itself, and with a field that is not known. -/
def labelled : List Field :=
  [("line", .int 3), ("col", .null), ("message", .text "m"), ("type", .text "error"),
    ("browsers", .bool true)]

theorem isPlain_labelled : IsPlain labelled where
  line := by
    rintro v ⟨⟩
    exact .inr ⟨3, rfl⟩
  col := by
    rintro v ⟨⟩
    exact .inl rfl
  message := by
    rintro v ⟨⟩
    exact .inr ⟨_, rfl⟩
  evidence := by rintro v ⟨⟩
  type := by
    rintro v ⟨⟩
    exact .inr ⟨_, rfl⟩
  rule := by rintro v ⟨⟩
  label := by
    rintro t s ht hs
    cases ht
    cases hs
    rfl

theorem lasts_labelled : (Value.object labelled).Lasts := by
  have hkeys : ∀ f ∈ labelled, ∀ c ∈ f.1, c.isSurrogate = false := by decide
  have htexts : ∀ t ∈ (["m", "error"] : List Text), ∀ c ∈ t, c.isSurrogate = false := by decide
  have htext : ∀ t ∈ (["m", "error"] : List Text), (Value.text t).Lasts := fun t ht =>
    .text (Json.unpaired_of_forall_not_isSurrogate (htexts t ht))
  refine .object (by decide)
    (fun f hf => Json.unpaired_of_forall_not_isSurrogate (hkeys f hf)) ?_
  simp only [labelled, List.forall_mem_cons]
  exact ⟨.int (by decide), .null, htext _ (by simp), htext _ (by simp), .bool true, by simp⟩

def labelledText : Text :=
  "\x7b\"a.css\": [\x7b\"line\": 3, \"col\": null, \"message\": \"m\", \"type\": \"error\", " ++
    "\"browsers\": true\x7d]\x7d"

theorem report_eq_mapping_labelled :
    Payload.load labelledText = .ok [("a.css", [labelled])] ∧ IsPlain labelled ∧
      ∃ m checked x log,
        FieldMapping.make "csslint" [("column", "col"), ("reason", "message"),
          ("severity", "type")] = .ok m ∧
        Payload.loadTyped .cssRecord rule labelledText = .ok checked ∧
        Adapter.report (some (Payload.named checked)) (some adapter) () = ⟨x, (), log⟩ ∧
        Adapter.report (some [(.text "a.css", [.object labelled])]) (some m.adapter) () =
          ⟨x, (), log⟩ ∧
        Adapter.Ends toItem checked x ∧
        ∀ report, x = .ok report → ∀ d, ∃ e, report.toElement d = .ok e := by
  have hload : Payload.load labelledText = .ok [("a.css", [labelled])] := by
    have hrenders : Json.RendersField (Payload.memberOf ("a.css", [labelled]))
        (Payload.memberOf ("a.css", [labelled])) :=
      Payload.rendersField_memberOf (List.forall_mem_singleton.mpr lasts_labelled)
    exact (Payload.load_eq_ok_iff_of_renders (by decide) (by decide)
      (Json.renders_object (.cons hrenders .nil))).mpr (.object (.cons rfl .nil))
  have hplain : ∀ g ∈ ([("a.css", [labelled])] : List (Group RawRecord)),
      ∀ fs ∈ g.2, IsPlain fs := by
    simp [isPlain_labelled]
  exact ⟨hload, isPlain_labelled, report_css_eq_mapping hload hplain ()⟩

end CssRecord

end WebLint
