import WebLint.Proofs.Adapter.Fields

namespace WebLint

/-! ### Values as texts -/

/-- A code point with which no label starts, in either case. -/
structure Code.IsForeign (c : Code) : Prop where
  isAscii : c.val < 0x80
  isBlank : c.isBlank = false
  head?_ne : ∀ a ∈ Severity.commonAliases, a.1.head? ≠ some c.toLower

def Text.IsForeign (t : Text) : Prop :=
  ∃ c r, t = c :: r ∧ c.IsForeign

theorem Text.lower_cons {c : Code} (h : c.val < 0x80) (t : Text) :
    Text.lower (c :: t) = c.toLower :: lowerFrom [c] t := by
  have hsigma : c.val ≠ 0x3a3 := by omega
  have hdotted : c.val ≠ 0x130 := by omega
  simp only [Text.lower, lowerFrom, hsigma, hdotted, if_false]

theorem Text.IsForeign.ofLabel? {t : Text} (h : t.IsForeign) :
    Severity.ofLabel? Severity.commonAliases (.text t) = none := by
  obtain ⟨c, r, rfl, hc⟩ := h
  rw [Severity.ofLabel?, Text.trim, Text.trimWhile_cons_of_not hc.isBlank,
    Text.lower_cons hc.isAscii, List.lookup_eq_none_iff]
  intro a ha
  have hne := hc.head?_ne a ha
  simp only [bne_iff_ne]
  rintro heq
  rw [← heq] at hne
  exact hne rfl

theorem Text.IsForeign.append {t : Text} (h : t.IsForeign) (r : Text) : (t ++ r).IsForeign := by
  obtain ⟨c, r', rfl, hc⟩ := h
  exact ⟨c, r' ++ r, rfl, hc⟩

theorem Text.IsForeign.take {t : Text} (h : t.IsForeign) {n : Nat} (hn : 0 < n) :
    Text.IsForeign (t.take n) := by
  obtain ⟨c, r, rfl, hc⟩ := h
  obtain ⟨n, rfl⟩ := Nat.exists_eq_succ_of_ne_zero (Nat.ne_of_gt hn)
  exact ⟨c, r.take n, List.take_succ_cons, hc⟩

theorem isForeign_cons {c : Code} {t : Text} (h : c.IsForeign) : Text.IsForeign (c :: t) :=
  ⟨c, t, rfl, h⟩

theorem isForeign_digit {c : Code} (h : c.isAsciiDigit = true) : c.IsForeign := by
  have hval := Code.isAsciiDigit_iff.mp h
  have hlower : c.toLower = c := if_pos (by omega)
  refine ⟨by omega, isBlank_digit h, fun a ha hhead => ?_⟩
  have hletters : ∀ a ∈ Severity.commonAliases, ∀ d ∈ a.1.head?, d.isAsciiDigit = false := by
    decide
  rw [hlower] at hhead
  rw [hletters a ha c hhead] at h
  cases h

theorem isForeign_numeral (n : Nat) : (numeral n).IsForeign := by
  obtain ⟨c, r, h⟩ := List.exists_cons_of_ne_nil (numeral_ne_nil n)
  have hc : c ∈ numeral n := by
    rw [h]
    exact List.mem_cons_self
  exact ⟨c, r, h, isForeign_digit (isDigits_numeral n c hc)⟩

theorem isForeign_minus (t : Text) : Text.IsForeign ('-' :: t) :=
  isForeign_cons ⟨by decide, by decide, by decide⟩

theorem isForeign_zero : Text.IsForeign "0." :=
  isForeign_cons (isForeign_digit (by decide))

theorem isForeign_integerText (n : Int) : (integerText n).IsForeign := by
  cases n with
  | ofNat n => exact isForeign_numeral n
  | negSucc n => exact isForeign_minus _

theorem isForeign_layout (digits : Nat) (power : Int) :
    (Binary64.layout digits power).IsForeign := by
  have hdigits := isForeign_numeral digits
  simp only [Binary64.layout]
  split
  · simp only [List.append_assoc]
    exact (hdigits.take Nat.one_pos).append _
  · split
    · simp only [List.append_assoc]
      exact isForeign_zero.append _
    · next hplace =>
      split
      · simp only [List.append_assoc]
        exact hdigits.append _
      · have hplace := Int.pos_iff_toNat_pos.mp (Int.not_le.mp hplace)
        simp only [List.append_assoc]
        exact (hdigits.take hplace).append _

/-- A number that is no word starts with a sign or a digit. -/
theorem isForeign_finite (negative : Bool) (mantissa exponent : Nat) :
    (Binary64.finite negative mantissa exponent).text.IsForeign := by
  cases negative with
  | true => exact isForeign_minus _
  | false =>
    simp only [Binary64.text, Bool.false_eq_true, if_false]
    split
    · exact isForeign_zero.append "0"
    · exact isForeign_layout _ _

theorem isForeign_quoted (t : Text) : t.quoted.IsForeign := by
  have hquote : t.quote.IsForeign := by
    rw [Text.quote]
    split <;> exact ⟨by decide, by decide, by decide⟩
  exact isForeign_cons hquote

theorem isForeign_moment (m : Moment) : m.shown.IsForeign := by
  have hd : Code.IsForeign 'd' := ⟨by decide, by decide, by decide⟩
  cases m with
  | date y mo d => exact isForeign_cons hd
  | time h mi s us => exact isForeign_cons hd
  | dateTime y mo d h mi s us o => exact isForeign_cons hd

theorem ofLabel?_shown (v : Value) :
    Severity.ofLabel? Severity.commonAliases (.text v.shown) = none := by
  cases v with
  | null => decide
  | bool b => cases b <;> decide
  | int n =>
    rw [Value.shown]
    exact (isForeign_integerText n).ofLabel?
  | float x =>
    rw [Value.shown]
    cases x with
    | finite negative mantissa exponent => exact (isForeign_finite ..).ofLabel?
    | infinity negative => cases negative <;> decide
    | nan => decide
  | text t =>
    rw [Value.shown]
    exact (isForeign_quoted t).ofLabel?
  | moment m =>
    rw [Value.shown]
    exact (isForeign_moment m).ofLabel?
  | list items =>
    have hopen : Text.IsForeign "[" := isForeign_cons ⟨by decide, by decide, by decide⟩
    rw [Value.shown, List.append_assoc]
    exact (hopen.append _).ofLabel?
  | object fields =>
    have hopen : Text.IsForeign "\x7b" := isForeign_cons ⟨by decide, by decide, by decide⟩
    rw [Value.shown, List.append_assoc]
    exact (hopen.append _).ofLabel?

namespace FieldMapping

/-! ### Second readings -/

variable {m : FieldMapping} {o : Option Text} {i : Item}

/-- The mapping under which every part of a finding stands under its own name. -/
def canonical (tool : Text) : FieldMapping :=
  ⟨tool, []⟩

theorem isNormal_of_severityText {v : Value} (h : severityText v = .ok o) :
    Severity.IsNormal o := by
  rw [severityText] at h
  cases hlabel : Severity.ofLabel? Severity.commonAliases v with
  | some s =>
    rw [hlabel] at h
    cases h
    exact Severity.isNormal_name s
  | none =>
    rw [hlabel] at h
    cases v with
    | null =>
      cases h
      rintro t ⟨⟩
    | text t =>
      cases h
      exact Severity.isNormal_of_ofLabel? hlabel
    | bool | int | float | moment | list | object =>
      simp only [plainText] at h
      split at h
      · cases h
      · cases h
        exact Severity.isNormal_of_ofLabel? (ofLabel?_shown _)

theorem canonical_item_toValue_iff (tool : Text) :
    (canonical tool).item i.toValue = .ok i ↔ Severity.IsNormal i.severity := by
  constructor
  · intro h
    obtain ⟨hseverity, -⟩ := item_eq_ok_iff.mp h
    exact isNormal_of_severityText hseverity
  · intro h
    refine item_eq_ok_iff.mpr ⟨severityText_of_isNormal h, ?_, ?_, ?_, ?_⟩
    · exact integer_ofOption ..
    · exact integer_ofOption ..
    · exact plainText_ofOption ..
    · exact plainText_ofOption ..

theorem isNormal_of_item {v : Value} (h : m.item v = .ok i) : Severity.IsNormal i.severity := by
  cases v with
  | object record =>
    obtain ⟨hseverity, -⟩ := item_eq_ok_iff.mp h
    exact isNormal_of_severityText hseverity
  | null | bool | int | float | text | moment | list => cases h

end FieldMapping

open FieldMapping

/-- Of a finding that some mapping makes, taken as a record of its own, the mapping without
overrides makes the same finding. Its severity is no label that a second reading would replace. -/
theorem item_toValue {m : FieldMapping} {v : Value} {i : Item} (h : m.item v = .ok i)
    (tool : Text) :
    make tool [] = .ok (canonical tool) ∧ (canonical tool).item i.toValue = .ok i ∧
      Severity.IsNormal i.severity := by
  have hnormal := isNormal_of_item h
  exact ⟨rfl, (canonical_item_toValue_iff tool).mpr hnormal, hnormal⟩

def levelRecord (v : Value) : Value :=
  .object [("level", v), ("line", .text " 7\n"), ("evidence", .float .nan)]

def levelMapping : FieldMapping :=
  ⟨"other", [("severity", "level")]⟩

/-- A list that holds a label is none, and neither is what is shown of it. -/
theorem item_toValue_level :
    ∃ i j, levelMapping.item (levelRecord (.text " FATAL ")) = .ok i ∧
      levelMapping.item (levelRecord (.list [.text "fatal"])) = .ok j ∧
      i.severity = some "error" ∧ j.severity = some "['fatal']" ∧
      (canonical "again").item i.toValue = .ok i ∧ (canonical "again").item j.toValue = .ok j := by
  have hlabel : levelMapping.item (levelRecord (.text " FATAL ")) =
      .ok ⟨some "error", some 7, none, none, some "nan"⟩ := by rfl
  have hlist : levelMapping.item (levelRecord (.list [.text "fatal"])) =
      .ok ⟨some "['fatal']", some 7, none, none, some "nan"⟩ := by rfl
  exact ⟨_, _, hlabel, hlist, rfl, rfl, (item_toValue hlabel "again").2.1,
    (item_toValue hlist "again").2.1⟩

end WebLint
