import WebLint.Proofs.Document.RoundTrip
import WebLint.Proofs.Xml.Characters

namespace WebLint

open Xml

/-- A text that documents of the report show. -/
inductive Report.Shows (r : Report) : Text → Prop
  | path {e : Entry} (he : e ∈ r.entries) : Shows r e.path
  | part {e : Entry} {i : Item} {t : Text} (he : e ∈ r.entries) (hi : i ∈ e.items)
    (ht : i.severity = some t ∨ i.reason = some t ∨ i.evidence = some t)
    (hblank : t.isBlank = false) : Shows r t

theorem mem_presentAttribute_iff {name key v : Text} {o : Option Text} :
    (key, v) ∈ presentAttribute name o ↔ key = name ∧ o = some v ∧ v.isBlank = false := by
  cases o with
  | none => simp [presentAttribute]
  | some t =>
    cases hblank : t.isBlank with
    | true =>
      have hne : v.isBlank = false → t ≠ v := by
        rintro hv rfl
        rw [hblank] at hv
        cases hv
      simp only [presentAttribute, hblank, if_true, List.not_mem_nil, false_iff, Option.some.injEq]
      rintro ⟨-, ht, hv⟩
      exact hne hv ht
    | false =>
      simp only [presentAttribute, hblank, Bool.false_eq_true, if_false, List.mem_singleton,
        Prod.mk.injEq, Option.some.injEq]
      constructor
      · rintro ⟨rfl, rfl⟩
        exact ⟨rfl, rfl, hblank⟩
      · rintro ⟨rfl, rfl, -⟩
        exact ⟨rfl, rfl⟩

theorem Item.hasValue_element_iff {names : DialectNames} {i : Item} {v : Text} :
    (i.element names).HasValue v ↔
      v.isBlank = false ∧ ∃ key, (key, some v) ∈ i.parts names := by
  have hmem : ∀ key, (key, v) ∈ i.attributes names ↔
      v.isBlank = false ∧ (key, some v) ∈ i.parts names := by
    intro key
    simp only [attributes, presentAttributes, List.mem_flatMap, mem_presentAttribute_iff]
    constructor
    · rintro ⟨⟨name, o⟩, hpart, rfl, rfl, hblank⟩
      exact ⟨hblank, hpart⟩
    · rintro ⟨hblank, hpart⟩
      exact ⟨_, hpart, rfl, rfl, hblank⟩
  constructor
  · intro h
    cases h with
    | own h => exact ⟨((hmem _).mp h).1, _, ((hmem _).mp h).2⟩
    | child he => cases he
  · rintro ⟨hblank, key, hpart⟩
    exact .own ((hmem key).mpr ⟨hblank, hpart⟩)

theorem Entry.hasValue_element_iff {names : DialectNames} {e : Entry} {v : Text} :
    (e.element names).HasValue v ↔ v = e.path ∨ ∃ i ∈ e.items, (i.element names).HasValue v := by
  constructor
  · intro h
    cases h with
    | own h => exact .inl (Prod.mk.inj (List.mem_singleton.mp h)).2
    | child hmem h =>
      obtain ⟨i, hi, rfl⟩ := List.mem_map.mp hmem
      exact .inr ⟨i, hi, h⟩
  · rintro (rfl | ⟨i, hi, h⟩)
    · exact .own (List.mem_singleton_self _)
    · exact .child (List.mem_map_of_mem hi) h

theorem Report.hasValue_element_iff {d : Dialect} {r : Report} {v : Text} :
    (r.element d).HasValue v ↔ ∃ e ∈ r.entries, (e.element d.names).HasValue v := by
  constructor
  · intro h
    cases h with
    | own h => cases h
    | child hmem h =>
      obtain ⟨e, he, rfl⟩ := List.mem_map.mp hmem
      exact ⟨e, he, h⟩
  · rintro ⟨e, he, h⟩
    exact .child (List.mem_map_of_mem he) h

theorem hasCharactersOnly_integerText (n : Int) : HasCharactersOnly (integerText n) := by
  intro c hc
  rcases mem_integerText hc with rfl | h
  · decide
  · have hbounds := Code.isAsciiDigit_iff.mp h
    simp only [isCharacter, Bool.or_eq_true, Bool.and_eq_true, decide_eq_true_eq]
    omega

namespace Report

theorem shows_or_integer {d : Dialect} {r : Report} {v : Text} (h : (r.element d).HasValue v) :
    r.Shows v ∨ ∃ n, v = integerText n := by
  obtain ⟨e, he, h⟩ := hasValue_element_iff.mp h
  rcases Entry.hasValue_element_iff.mp h with rfl | ⟨i, hi, h⟩
  · exact .inl (.path he)
  · obtain ⟨hblank, key, hpart⟩ := Item.hasValue_element_iff.mp h
    have hinteger : ∀ {o : Option Int}, some v = o.map integerText → ∃ n, v = integerText n := by
      intro o ho
      obtain ⟨n, -, hn⟩ := Option.map_eq_some_iff.mp ho.symm
      exact ⟨n, hn.symm⟩
    simp only [Item.parts, List.mem_cons, Prod.mk.injEq, List.not_mem_nil, or_false] at hpart
    rcases hpart with ⟨-, h⟩ | ⟨-, h⟩ | ⟨-, h⟩ | ⟨-, h⟩ | ⟨-, h⟩
    · exact .inr (hinteger h)
    · exact .inl (.part he hi (.inr (.inr h.symm)) hblank)
    · exact .inr (hinteger h)
    · exact .inl (.part he hi (.inr (.inl h.symm)) hblank)
    · exact .inl (.part he hi (.inl h.symm) hblank)

theorem hasValue_of_shows {d : Dialect} {r : Report} {t : Text} (h : r.Shows t) :
    (r.element d).HasValue t := by
  cases h with
  | path he => exact hasValue_element_iff.mpr ⟨_, he, Entry.hasValue_element_iff.mpr (.inl rfl)⟩
  | @part e i _ he hi ht hblank =>
    have hpart : ∃ key, (key, some t) ∈ i.parts d.names := by
      rcases ht with ht | ht | ht
      · exact ⟨"severity", by simp [Item.parts, ht]⟩
      · exact ⟨d.names.reason, by simp [Item.parts, ht]⟩
      · exact ⟨"evidence", by simp [Item.parts, ht]⟩
    have hitem := Item.hasValue_element_iff.mpr ⟨hblank, hpart⟩
    exact hasValue_element_iff.mpr ⟨e, he, Entry.hasValue_element_iff.mpr (.inr ⟨i, hi, hitem⟩)⟩

theorem isLegal_write_element_iff (d : Dialect) (r : Report) (indented : Bool) :
    IsLegal (write indented (r.element d)) ↔ ∀ t, r.Shows t → HasCharactersOnly t := by
  rw [isLegal_write_iff (wellNamed_element d r)]
  constructor
  · intro h t ht
    exact h t (hasValue_of_shows ht)
  · intro h v hv
    rcases shows_or_integer hv with hshows | ⟨n, rfl⟩
    · exact h v hshows
    · exact hasCharactersOnly_integerText n

end Report

theorem format_eq_ok {r : Report} (hr : r.IsWritable) {v : Value} {d : Dialect}
    (hd : Dialect.ofValue v = .ok d) : Subject.format (.report r) v = .ok (r.element d) := by
  rw [Subject.format_report hd]
  exact Report.toElement_eq_ok_iff.mpr ⟨hr, rfl⟩

/-- A document of a report has legal characters and references only if and only if the report shows
no other characters. -/
theorem isLegal_format_iff {r : Report} (hr : r.IsWritable) {v : Value} {d : Dialect}
    (hd : Dialect.ofValue v = .ok d) (indented : Bool) :
    ∃ root t, Subject.format (.report r) v = .ok root ∧
      Utf8.decode (octets indented root) = .ok t ∧
      (IsLegal t ↔ ∀ u, r.Shows u → HasCharactersOnly u) :=
  ⟨_, _, format_eq_ok hr hd, decode_octets (Report.wellNamed_element d r) indented,
    Report.isLegal_write_element_iff d r indented⟩

/-- A path, a reason and evidence that are legal, and a severity that is not. -/
def Report.halved : Report :=
  let i : Item := {
    severity := some [Code.ofNat 0xd83d]
    column := some 3
    reason := some "&#1;\t"
    evidence := some [Code.ofNat 0x1c] }
  ⟨[⟨"a<b", [i]⟩]⟩

theorem isLegal_format_halved :
    Report.halved.IsWritable ∧ Dialect.ofValue (.text "CSSLint ") = .ok .cssLint ∧
      ∃ root t, Subject.format (.report .halved) (.text "CSSLint ") = .ok root ∧
        Utf8.decode (octets true root) = .ok t ∧
        (IsLegal t ↔ ∀ u, Report.halved.Shows u → HasCharactersOnly u) := by
  have hr : Report.halved.IsWritable := by decide
  have hd : Dialect.ofValue (.text "CSSLint ") = .ok .cssLint := rfl
  exact ⟨hr, hd, isLegal_format_iff hr hd true⟩

def Report.control : Report :=
  ⟨[⟨"a.js", [{ evidence := some [Code.ofNat 0x1] }]⟩]⟩

theorem not_isLegal_format_control :
    Report.control.IsWritable ∧
      ∃ root t, Subject.format (.report .control) (.text "lint") = .ok root ∧
        Utf8.decode (octets true root) = .ok t ∧ ¬ IsLegal t := by
  have hr : Report.control.IsWritable := by decide
  have hd : Dialect.ofValue (.text "lint") = .ok .plain := rfl
  refine ⟨hr, _, _, format_eq_ok hr hd, decode_octets (Report.wellNamed_element _ _) true, ?_⟩
  rw [Report.isLegal_write_element_iff]
  intro h
  have hshows : Report.control.Shows [Code.ofNat 0x1] :=
    .part (List.mem_singleton_self _) (List.mem_singleton_self _) (.inr (.inr rfl)) (by decide)
  exact absurd (h _ hshows) (by decide)

end WebLint
