import WebLint.Proofs.Adapter.Integers

namespace WebLint

/-- The parts of a finding that are integers. -/
inductive IntegerPart
  | line
  | column
deriving DecidableEq

def IntegerPart.name : IntegerPart → Text
  | line => "line"
  | column => "column"

def Item.integer (i : Item) : IntegerPart → Option Int
  | .line => i.line
  | .column => i.column

namespace Severity

/-- Not a label, or the usual name that it stands for. -/
def IsNormal (o : Option Text) : Prop :=
  ∀ t ∈ o, ∀ s, ofLabel? commonAliases (.text t) = some s → t = s.name

theorem ofLabel?_name (s : Severity) : ofLabel? commonAliases (.text s.name) = some s := by
  cases s <;> rfl

theorem isNormal_name (s : Severity) : IsNormal (some s.name) := by
  rintro _ ⟨⟩ s' hs'
  rw [ofLabel?_name, Option.some.injEq] at hs'
  rw [hs']

theorem isNormal_of_ofLabel? {t : Text} (h : ofLabel? commonAliases (.text t) = none) :
    IsNormal (some t) := by
  rintro _ ⟨⟩ s hs
  rw [h] at hs
  cases hs

end Severity

namespace FieldMapping

variable {m : FieldMapping} {record : List Field} {i : Item}

def severityText (v : Value) : Except Fault (Option Text) :=
  match Severity.ofLabel? Severity.commonAliases v with
  | some s => .ok (some s.name)
  | none => plainText v

def key (m : FieldMapping) (part : Text) : Text :=
  (m.keys.lookup part).getD part

theorem lookup_eq (m : FieldMapping) (record : List Field) (part : Text) :
    m.lookup record part = (fieldOf? record (m.key part)).getD .null :=
  rfl

theorem item_object (m : FieldMapping) (record : List Field) :
    m.item (.object record) = (do
      let severity ← severityText (m.lookup record "severity")
      let line ← integer "line" (m.lookup record "line")
      let column ← integer "column" (m.lookup record "column")
      let reason ← plainText (m.lookup record "reason")
      let evidence ← plainText (m.lookup record "evidence")
      return { severity, line, column, reason, evidence }) := by
  simp only [item, severityText]
  cases Severity.ofLabel? Severity.commonAliases (m.lookup record "severity") <;> rfl

theorem item_eq_ok_iff :
    m.item (.object record) = .ok i ↔
      severityText (m.lookup record "severity") = .ok i.severity ∧
      integer "line" (m.lookup record "line") = .ok i.line ∧
      integer "column" (m.lookup record "column") = .ok i.column ∧
      plainText (m.lookup record "reason") = .ok i.reason ∧
      plainText (m.lookup record "evidence") = .ok i.evidence := by
  rw [item_object]
  simp only [bind_eq_ok_iff]
  constructor
  · rintro ⟨_, hseverity, _, hline, _, hcolumn, _, hreason, _, hevidence, h⟩
    cases h
    exact ⟨hseverity, hline, hcolumn, hreason, hevidence⟩
  · rintro ⟨hseverity, hline, hcolumn, hreason, hevidence⟩
    exact ⟨_, hseverity, _, hline, _, hcolumn, _, hreason, _, hevidence, rfl⟩

/-! ### Parts that are read as what they are -/

theorem integer_ofOption (part : Text) (o : Option Int) :
    integer part (.ofOption .int o) = .ok o := by
  cases o <;> rfl

theorem plainText_ofOption (o : Option Text) : plainText (.ofOption .text o) = .ok o := by
  cases o <;> rfl

theorem severityText_of_isNormal {o : Option Text} (h : Severity.IsNormal o) :
    severityText (.ofOption .text o) = .ok o := by
  cases o with
  | none => rfl
  | some t =>
    rw [severityText, plainText_ofOption]
    split
    · next s hs => rw [h t rfl s hs]
    · rfl

/-! ### Integer parts -/

theorem exists_plainText {v : Value} (h : v.exceedsDigitLimit = false) :
    ∃ o, plainText v = .ok o := by
  cases v <;> simp [plainText, h]

theorem exists_severityText {v : Value} (h : v.exceedsDigitLimit = false) :
    ∃ o, severityText v = .ok o := by
  rw [severityText]
  split
  · exact ⟨_, rfl⟩
  · exact exists_plainText h

def integerField (m : FieldMapping) (record : List Field) (p : IntegerPart) : Option Value :=
  fieldOf? record (m.key p.name)

/-- Whatever one integer part holds, the other parts of the record are readable: the other integer
is, and nothing that becomes a text holds an integer too long to be written. -/
structure IsAdaptableBut (m : FieldMapping) (p : IntegerPart) (record : List Field) : Prop where
  texts : ∀ part ∈ (["severity", "reason", "evidence"] : List Text),
    (m.lookup record part).exceedsDigitLimit = false
  integers : ∀ q, q ≠ p → ∃ o, ReadsInteger (m.integerField record q) o

theorem integer_lookup_eq_ok_iff {p : IntegerPart} {o : Option Int} :
    integer p.name (m.lookup record p.name) = .ok o ↔ ReadsInteger (m.integerField record p) o := by
  rw [lookup_eq, integer_eq_ok_iff, integerField]

theorem exists_item_of_integers (htexts : ∀ part ∈ (["severity", "reason", "evidence"] : List Text),
      (m.lookup record part).exceedsDigitLimit = false) {f : IntegerPart → Option Int}
    (hf : ∀ q, ReadsInteger (m.integerField record q) (f q)) :
    ∃ i, m.item (.object record) = .ok i ∧ ∀ q, i.integer q = f q := by
  obtain ⟨severity, hseverity⟩ := exists_severityText (htexts "severity" (by simp))
  obtain ⟨reason, hreason⟩ := exists_plainText (htexts "reason" (by simp))
  obtain ⟨evidence, hevidence⟩ := exists_plainText (htexts "evidence" (by simp))
  have hline := integer_lookup_eq_ok_iff.mpr (hf .line)
  have hcolumn := integer_lookup_eq_ok_iff.mpr (hf .column)
  refine ⟨⟨severity, f .line, f .column, reason, evidence⟩, item_eq_ok_iff.mpr
    ⟨hseverity, hline, hcolumn, hreason, hevidence⟩, ?_⟩
  intro q
  cases q <;> rfl

theorem readsInteger_of_item (h : m.item (.object record) = .ok i) (q : IntegerPart) :
    ReadsInteger (m.integerField record q) (i.integer q) := by
  obtain ⟨-, hline, hcolumn, -, -⟩ := item_eq_ok_iff.mp h
  cases q with
  | line => exact integer_lookup_eq_ok_iff.mp hline
  | column => exact integer_lookup_eq_ok_iff.mp hcolumn

theorem IsAdaptableBut.exists_item_iff {p : IntegerPart} (h : m.IsAdaptableBut p record)
    {o : Option Int} :
    (∃ i, m.item (.object record) = .ok i ∧ i.integer p = o) ↔
      ReadsInteger (m.integerField record p) o := by
  constructor
  · rintro ⟨i, hi, rfl⟩
    exact readsInteger_of_item hi p
  · intro ho
    have hreads : ∀ q, ∃ o', ReadsInteger (m.integerField record q) o' ∧ (q = p → o' = o) := by
      intro q
      by_cases hq : q = p
      · exact ⟨o, hq ▸ ho, fun _ => rfl⟩
      · obtain ⟨o', ho'⟩ := h.integers q hq
        exact ⟨o', ho', fun hqp => absurd hqp hq⟩
    choose f hf hp using hreads
    obtain ⟨i, hi, hif⟩ := exists_item_of_integers h.texts hf
    exact ⟨i, hi, by rw [hif, hp p rfl]⟩

theorem exists_item_eq_error {p : IntegerPart}
    (h : ∀ o, ¬ ReadsInteger (m.integerField record p) o) :
    ∃ f, m.item (.object record) = .error f := by
  cases hitem : m.item (.object record) with
  | error f => exact ⟨f, rfl⟩
  | ok i => exact absurd (readsInteger_of_item hitem p) (h _)

/-- A record that fails stops the report of its group, and with that the whole job. -/
theorem exists_report_eq_error {σ : Type} {s s₁ s₂ : σ} {gs : List (Value × List Value)}
    {es : List Entry} {rs : List Value} {items : List Item} {r : Value} {f : Fault}
    (hgs : m.adapter.Completes s gs es s₁) (hrs : m.adapter.Adapts s₁ rs items s₂)
    (hr : m.item r = .error f) (path : Text) (rest : List Value)
    (more : List (Value × List Value)) :
    Adapter.report (some (gs ++ (.text path, rs ++ r :: rest) :: more)) (some m.adapter) s =
      ⟨.error (.adaptation (.text path) rs.length f), s₂,
        (m.adapter : Adapter σ Value).lines es⟩ := by
  have hadapt : m.adapter.adapt r s₂ = (.error f, s₂) := congrArg (·, s₂) hr
  exact Adapter.report_of_course (.recordFails hgs hrs hadapt (.shown rfl) rest more)

end FieldMapping

open FieldMapping

/-- An integer part of a record that is adaptable otherwise: a missing or null value is read as
absent, an integer as itself, and a numeral as what it denotes; whatever else stands there, the
record cannot be adapted, and the report of its group fails at it. Integers that may be written are
read back from their texts. -/
theorem item_integer {σ : Type} {m : FieldMapping} {p : IntegerPart} {record : List Field}
    (h : m.IsAdaptableBut p record) :
    (∀ o, (∃ i, m.item (.object record) = .ok i ∧ i.integer p = o) ↔
      ReadsInteger (m.integerField record p) o) ∧
    ((∀ o, ¬ ReadsInteger (m.integerField record p) o) →
      ∀ (s s₁ s₂ : σ) (gs more : List (Value × List Value)) (es : List Entry) (path : Text)
        (rs rest : List Value) (items : List Item),
        m.adapter.Completes s gs es s₁ → m.adapter.Adapts s₁ rs items s₂ →
        ∃ f, Adapter.report (some (gs ++ (.text path, rs ++ .object record :: rest) :: more))
          (some m.adapter) s = ⟨.error (.adaptation (.text path) rs.length f), s₂,
            (m.adapter : Adapter σ Value).lines es⟩) ∧
    ∀ n, IsShort n → ReadsInteger (some (.text (integerText n))) (some n) := by
  refine ⟨fun o => h.exists_item_iff, ?_, fun n hn => ?_⟩
  · intro hnone s s₁ s₂ gs more es path rs rest items hgs hrs
    obtain ⟨f, hf⟩ := exists_item_eq_error hnone
    exact ⟨f, exists_report_eq_error hgs hrs hf path rest more⟩
  · apply ReadsInteger.numeral
    rw [trim_integerText]
    exact denotes_integerText hn

def rowRecord (v : Value) : List Field :=
  [("row", v), ("column", .int 9), ("severity", .text "warn")]

def rowMapping : FieldMapping :=
  ⟨"other", [("line", "row")]⟩

/-- A numeral of Arabic digits is read; a text with two minus signs is none, though it looks like
one. -/
theorem item_integer_row :
    rowMapping.IsAdaptableBut .line (rowRecord (.text " -\u0663\u0661 ")) ∧
    (∃ i, rowMapping.item (.object (rowRecord (.text " -\u0663\u0661 "))) = .ok i ∧
      i.integer .line = some (-31)) ∧
    rowMapping.IsAdaptableBut .line (rowRecord (.text "--5")) ∧
    (∀ o, ¬ ReadsInteger (rowMapping.integerField (rowRecord (.text "--5")) .line) o) ∧
    ∃ f, Adapter.report
      (some [(.text "a.js", [.object (rowRecord .null), .object (rowRecord (.text "--5"))])])
      (some rowMapping.adapter) () = ⟨.error (.adaptation (.text "a.js") 1 f), (), []⟩ := by
  have hadaptable : ∀ t : Text, rowMapping.IsAdaptableBut .line (rowRecord (.text t)) := by
    intro t
    constructor
    · intro part hpart
      simp only [List.mem_cons, List.not_mem_nil, or_false] at hpart
      obtain rfl | rfl | rfl := hpart <;> rfl
    · intro q hq
      cases q with
      | line => exact absurd rfl hq
      | column => exact ⟨some 9, .integer 9⟩
  have htrim : (" -\u0663\u0661 " : Text).trim = "-\u0663\u0661" := by decide
  have hdigits : IsNumeral "\u0663\u0661" [3, 1] := ⟨by decide, by decide, by decide⟩
  have hread : ReadsInteger (some (.text " -\u0663\u0661 ")) (some (-31)) := by
    apply ReadsInteger.numeral
    rw [htrim]
    exact .minus hdigits
  have hnone : ∀ o, ¬ ReadsInteger (some (.text "--5")) o := by
    intro o ho
    have hrefused : integer "line" (.text "--5") = .error (.numeralUnreadable "--5") := by rfl
    cases hrefused.symm.trans (integer_eq_ok_iff.mpr ho)
  have hrs : rowMapping.adapter.Adapts () [.object (rowRecord .null)] [_] () := .cons rfl .nil
  have hgood := (@item_integer Unit _ _ _ (hadaptable " -\u0663\u0661 ")).1
  have hbad := (@item_integer Unit _ _ _ (hadaptable "--5")).2.1
  refine ⟨hadaptable _, (hgood _).mpr hread, hadaptable _, hnone, ?_⟩
  exact hbad hnone () () () [] [] [] "a.js" [.object (rowRecord .null)] [] _ .nil hrs

end WebLint
