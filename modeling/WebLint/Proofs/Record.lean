import Mathlib.Data.List.Forall2
import WebLint.Record.Diagnostics

namespace WebLint

namespace Check

variable {α β : Type}

theorem map_eq_ok_iff {f : α → β} {c : Check α} {b : β} :
    f <$> c = .ok b ↔ ∃ a, c = .ok a ∧ f a = b := by
  change Check.map f c = .ok b ↔ _
  cases c <;> simp [Check.map]

theorem seq_eq_ok_iff {f : Check (α → β)} {c : Check α} {b : β} :
    f <*> c = .ok b ↔ ∃ g, f = .ok g ∧ ∃ a, c = .ok a ∧ g a = b := by
  change Check.seq f (fun _ => c) = .ok b ↔ _
  cases f <;> cases c <;> simp [Check.seq, Check.map]

theorem under_eq_ok_iff {s : Step} {c : Check α} {a : α} : c.under s = .ok a ↔ c = .ok a := by
  cases c <;> simp [Check.under]

theorem run_eq_ok_iff {type : RecordType} {c : Check α} {a : α} :
    c.run type = .ok a ↔ c = .ok a := by
  cases c <;> simp [run]

theorem required_eq_ok_iff {rule : Rule α} {fs : List Field} {key : Text} {a : α} :
    required fs key rule = .ok a ↔ ∃ v, fieldOf? fs key = some v ∧ rule v = .ok a := by
  unfold required
  split
  · next h => simp [h, problem, under]
  · next v h => simp [h, under_eq_ok_iff]

theorem items_eq_ok_iff {rule : Rule α} {i : Nat} {vs : List Value} {as : List α} :
    items rule i vs = .ok as ↔ List.Forall₂ (fun v a => rule v = .ok a) vs as := by
  induction vs generalizing i as with
  | nil =>
    rw [items, List.forall₂_nil_left_iff]
    constructor
    · intro h
      cases h
      rfl
    · rintro rfl
      rfl
  | cons v vs ih =>
    rw [items, List.forall₂_cons_left_iff]
    simp only [seq_eq_ok_iff, map_eq_ok_iff, under_eq_ok_iff, ih]
    constructor
    · rintro ⟨_, ⟨a, ha, rfl⟩, as', has, rfl⟩
      exact ⟨a, as', ha, has, rfl⟩
    · rintro ⟨a, as', ha, has, rfl⟩
      exact ⟨_, ⟨a, ha, rfl⟩, as', has, rfl⟩

end Check

theorem Rule.list_eq_ok_iff {α : Type} {rule : Rule α} {v : Value} {as : List α} :
    list rule v = .ok as ↔ ∃ vs, v = .list vs ∧ List.Forall₂ (fun v a => rule v = .ok a) vs as := by
  cases v with
  | list vs => simp [list, Check.items_eq_ok_iff]
  | _ => simp [list, Check.problem]

/-- What a field that may be missing or null says, its value being as a rule asks. -/
inductive Says {α : Type} (rule : Rule α) (fs : List Field) (key : Text) : Option α → Prop
  | missing (h : fieldOf? fs key = none) : Says rule fs key none
  | null (h : fieldOf? fs key = some .null) : Says rule fs key none
  | value {v : Value} {a : α} (h : fieldOf? fs key = some v) (hv : v ≠ .null)
    (ha : rule v = .ok a) : Says rule fs key (some a)

theorem Rule.optional_eq_ok_iff {α : Type} {rule : Rule α} {v : Value} {o : Option α} :
    Rule.optional rule v = .ok o ↔
      (v = .null ∧ o = none) ∨ (v ≠ .null ∧ ∃ a, rule v = .ok a ∧ some a = o) := by
  by_cases hv : v = .null
  · subst hv
    simp [Rule.optional, eq_comm]
  · have hsome : Rule.optional rule v = some <$> rule v := by
      unfold Rule.optional
      split
      · exact absurd rfl hv
      · rfl
    rw [hsome, Check.map_eq_ok_iff]
    simp [hv]

theorem defaulted_eq_ok_iff {α : Type} {rule : Rule α} {fs : List Field} {key : Text}
    {o : Option α} :
    Check.defaulted fs key none (Rule.optional rule) = .ok o ↔ Says rule fs key o := by
  unfold Check.defaulted
  split
  · next hmissing =>
    constructor
    · intro h
      cases h
      exact .missing hmissing
    · intro h
      cases h with
      | missing => rfl
      | null h => cases hmissing.symm.trans h
      | value h => cases hmissing.symm.trans h
  · next v hv =>
    rw [Check.under_eq_ok_iff, Rule.optional_eq_ok_iff]
    constructor
    · rintro (⟨rfl, rfl⟩ | ⟨hnull, a, ha, rfl⟩)
      · exact .null hv
      · exact .value hv hnull ha
    · intro h
      cases h with
      | missing h => cases hv.symm.trans h
      | null h => exact .inl ⟨Option.some.inj (hv.symm.trans h), rfl⟩
      | value h hnull ha =>
        cases hv.symm.trans h
        exact .inr ⟨hnull, _, ha, rfl⟩

/-- The records of both tools have two integers and four texts. -/
theorem Check.fields_eq_ok_iff {ρ : Type} {fs : List Field} {k₁ k₂ k₃ k₄ k₅ k₆ : Text} {r : ρ}
    {mk : Option Int → Option Int → Option Text → Option Text → Option Text → Option Text → ρ} :
    mk <$> integerField fs k₁ <*> integerField fs k₂ <*> textField fs k₃ <*> textField fs k₄ <*>
        textField fs k₅ <*> textField fs k₆ = .ok r ↔
      ∃ n₁ n₂ t₃ t₄ t₅ t₆, (Says Rule.integer fs k₁ n₁ ∧ Says Rule.integer fs k₂ n₂ ∧
        Says Rule.text fs k₃ t₃ ∧ Says Rule.text fs k₄ t₄ ∧ Says Rule.text fs k₅ t₅ ∧
        Says Rule.text fs k₆ t₆) ∧ mk n₁ n₂ t₃ t₄ t₅ t₆ = r := by
  simp only [seq_eq_ok_iff, map_eq_ok_iff, textField, integerField, defaulted_eq_ok_iff]
  constructor
  · rintro ⟨_, ⟨_, ⟨_, ⟨_, ⟨_, ⟨n₁, h₁, rfl⟩, n₂, h₂, rfl⟩, t₃, h₃, rfl⟩, t₄, h₄, rfl⟩, t₅, h₅, rfl⟩,
      t₆, h₆, rfl⟩
    exact ⟨n₁, n₂, t₃, t₄, t₅, t₆, ⟨h₁, h₂, h₃, h₄, h₅, h₆⟩, rfl⟩
  · rintro ⟨n₁, n₂, t₃, t₄, t₅, t₆, ⟨h₁, h₂, h₃, h₄, h₅, h₆⟩, rfl⟩
    exact ⟨_, ⟨_, ⟨_, ⟨_, ⟨_, ⟨n₁, h₁, rfl⟩, n₂, h₂, rfl⟩, t₃, h₃, rfl⟩, t₄, h₄, rfl⟩, t₅, h₅, rfl⟩,
      t₆, h₆, rfl⟩

theorem LinterRecord.rule_eq_ok_iff {fs : List Field} {r : LinterRecord} :
    rule (.object fs) = .ok r ↔
      Says Rule.integer fs "line" r.line ∧ Says Rule.integer fs "character" r.character ∧
      Says Rule.text fs "reason" r.reason ∧ Says Rule.text fs "evidence" r.evidence ∧
      Says Rule.text fs "raw" r.raw ∧ Says Rule.text fs "code" r.code := by
  refine Check.fields_eq_ok_iff.trans ?_
  constructor
  · rintro ⟨_, _, _, _, _, _, h, rfl⟩
    exact h
  · intro h
    exact ⟨_, _, _, _, _, _, h, rfl⟩

theorem CssRecord.rule_eq_ok_iff {fs : List Field} {r : CssRecord} :
    rule (.object fs) = .ok r ↔
      Says Rule.integer fs "line" r.line ∧ Says Rule.integer fs "col" r.col ∧
      Says Rule.text fs "message" r.message ∧ Says Rule.text fs "evidence" r.evidence ∧
      Says Rule.text fs "type" r.type ∧ Says Rule.text fs "rule" r.ruleName := by
  refine Check.fields_eq_ok_iff.trans ?_
  constructor
  · rintro ⟨_, _, _, _, _, _, h, rfl⟩
    exact h
  · intro h
    exact ⟨_, _, _, _, _, _, h, rfl⟩

theorem Entry.pathRule_eq_ok_iff {v : Value} {t : Text} :
    pathRule v = .ok t ↔ v = .text t ∧ t.isBlank = false := by
  cases v with
  | text s =>
    cases hs : s.isBlank
    · simp only [pathRule, hs]
      constructor
      · intro h
        cases h
        exact ⟨rfl, hs⟩
      · rintro ⟨h, -⟩
        cases h
        rfl
    · simp only [pathRule, hs, if_true]
      constructor
      · intro h
        cases h
      · rintro ⟨h, ht⟩
        cases h
        cases hs.symm.trans ht
  | _ => simp [pathRule, Check.problem]

theorem Entry.isBlank_path_of_rule {v : Value} {e : Entry} (h : rule v = .ok e) :
    e.path.isBlank = false := by
  cases v with
  | object fs =>
    obtain ⟨_, hmk, items, -, rfl⟩ := Check.seq_eq_ok_iff.mp h
    obtain ⟨path, hpath, rfl⟩ := Check.map_eq_ok_iff.mp hmk
    obtain ⟨v, -, hv⟩ := Check.required_eq_ok_iff.mp hpath
    exact (pathRule_eq_ok_iff.mp hv).2
  | _ => cases h

end WebLint
