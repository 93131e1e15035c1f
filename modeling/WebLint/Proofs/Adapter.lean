import Mathlib.Data.List.Forall2
import WebLint.Adapter
import WebLint.Proofs.Act
import WebLint.Proofs.Record

namespace WebLint

theorem Entry.make_eq_ok_iff {path : Value} {items : List Item} {e : Entry} :
    make path items = .ok e ↔
      path = .text e.path ∧ e.path.isBlank = false ∧ e.items = items := by
  rw [make, Check.map_eq_ok_iff]
  simp only [Check.under_eq_ok_iff, pathRule_eq_ok_iff]
  constructor
  · rintro ⟨t, ⟨rfl, hblank⟩, rfl⟩
    exact ⟨rfl, hblank, rfl⟩
  · rintro ⟨rfl, hblank, rfl⟩
    exact ⟨e.path, ⟨rfl, hblank⟩, rfl⟩

namespace Adapter

variable {σ ρ : Type} {tool : Text} {f : ρ → Except Fault Item}

theorem makeEntry_eq_ok_iff {path : Value} {items : List Item} {e : Entry} :
    makeEntry path items = .ok e ↔
      path = .text e.path ∧ e.path.isBlank = false ∧ e.items = items := by
  rw [← Entry.make_eq_ok_iff, makeEntry]
  cases Entry.make path items <;> simp

theorem result_adaptRecords_eq_ok_iff {path : Value} {i : Nat} {rs : List ρ} {s : σ}
    {items : List Item} :
    ((ofFunction tool f).adaptRecords path i rs s).result = .ok items ↔
      List.Forall₂ (fun r item => f r = .ok item) rs items := by
  induction rs generalizing i s items with
  | nil =>
    rw [List.forall₂_nil_left_iff, adaptRecords]
    constructor
    · intro h
      cases h
      rfl
    · rintro rfl
      rfl
  | cons r rs ih =>
    rw [List.forall₂_cons_left_iff, adaptRecords, Act.result_bind_eq_ok_iff]
    simp only [Act.result_mapFault_eq_ok_iff, Act.result_bind_eq_ok_iff, ih]
    constructor
    · rintro ⟨item, hitem, items', hitems, h⟩
      cases h
      exact ⟨item, items', hitem, hitems, rfl⟩
    · rintro ⟨item, items', hitem, hitems, rfl⟩
      exact ⟨item, hitem, items', hitems, rfl⟩

/-- The entry of a group. -/
def MakesEntry (f : ρ → Except Fault Item) (g : Value × List ρ) (e : Entry) : Prop :=
  g.1 = .text e.path ∧ e.path.isBlank = false ∧
    List.Forall₂ (fun r item => f r = .ok item) g.2 e.items

theorem result_adaptGroups_eq_ok_iff {gs : List (Value × List ρ)} {before report : Report} {s : σ} :
    ((ofFunction tool f).adaptGroups before gs s).result = .ok report ↔
      ∃ es, List.Forall₂ (MakesEntry f) gs es ∧ report = ⟨before.entries ++ es⟩ := by
  induction gs generalizing before s with
  | nil =>
    simp only [List.forall₂_nil_left_iff, exists_eq_left, List.append_nil]
    constructor
    · intro h
      cases h
      rfl
    · rintro rfl
      rfl
  | cons g gs ih =>
    obtain ⟨path, rs⟩ := g
    rw [adaptGroups, Act.result_bind_eq_ok_iff]
    simp only [Act.result_bind_eq_ok_iff, result_adaptRecords_eq_ok_iff, Act.result_ofResult,
      makeEntry_eq_ok_iff, ih, List.forall₂_cons_left_iff]
    constructor
    · rintro ⟨items, hitems, e, ⟨hpath, hblank, rfl⟩, -, -, es, hes, rfl⟩
      refine ⟨e :: es, ⟨e, es, ⟨hpath, hblank, hitems⟩, hes, rfl⟩, ?_⟩
      simp [Report.push]
    · rintro ⟨_, ⟨e, es, ⟨hpath, hblank, hitems⟩, hes, rfl⟩, rfl⟩
      refine ⟨e.items, hitems, e, ⟨hpath, hblank, rfl⟩, (), rfl, es, hes, ?_⟩
      simp [Report.push]

theorem result_report_eq_ok_iff {gs : List (Value × List ρ)} {report : Report} {s : σ} :
    (Adapter.report (some gs) (some (ofFunction tool f)) s).result = .ok report ↔
      List.Forall₂ (MakesEntry f) gs report.entries := by
  rw [Adapter.report, result_adaptGroups_eq_ok_iff]
  constructor
  · rintro ⟨es, hes, rfl⟩
    exact hes
  · intro h
    exact ⟨report.entries, h, rfl⟩

end Adapter

end WebLint
