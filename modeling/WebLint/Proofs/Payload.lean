import WebLint.Payload
import WebLint.Proofs.Traversal

namespace WebLint.Payload

/-- The value under the first of some keys that is there. -/
inductive FirstPresent (fs : List Field) : List Text → Value → Prop
  | here {k : Text} {ks : List Text} {v : Value} (h : fieldOf? fs k = some v) :
    FirstPresent fs (k :: ks) v
  | later {k : Text} {ks : List Text} {v : Value} (h : fieldOf? fs k = none)
    (hv : FirstPresent fs ks v) : FirstPresent fs (k :: ks) v

/-- The values that an entry lists as its records. -/
inductive Lists (fs : List Field) : List Value → Prop
  | missing (h : ∀ k ∈ (["errors", "messages", "warnings"] : List Text), fieldOf? fs k = none) :
    Lists fs []
  | falsy {v : Value} (h : FirstPresent fs ["errors", "messages", "warnings"] v)
    (hv : v.isFalsy = true) : Lists fs []
  | list {vs : List Value} (h : FirstPresent fs ["errors", "messages", "warnings"] (.list vs)) :
    Lists fs vs

/-- An entry of a list with its path and the values that it lists. -/
inductive IsEntry : Value → Text → List Value → Prop
  | object {fs : List Field} {path : Text} {vs : List Value}
    (hpath : FirstPresent fs ["file", "source", "filePath"] (.text path))
    (hblank : path.isBlank = false) (hvs : Lists fs vs) : IsEntry (.object fs) path vs

/-! ### Entries -/

theorem firstPresent_eq_iff {fs : List Field} {ks : List Text} {v : Value} :
    firstPresent fs ks = v ↔
      FirstPresent fs ks v ∨ (v = .null ∧ ∀ k ∈ ks, fieldOf? fs k = none) := by
  induction ks with
  | nil =>
    constructor
    · rintro rfl
      exact .inr ⟨rfl, by simp⟩
    · rintro (h | ⟨rfl, -⟩)
      · cases h
      · rfl
  | cons k ks ih =>
    cases hk : fieldOf? fs k with
    | none =>
      have hstep : firstPresent fs (k :: ks) = firstPresent fs ks := by
        simp only [firstPresent, List.findSome?_cons, hk]
      rw [hstep, ih]
      constructor
      · rintro (h | ⟨rfl, h⟩)
        · exact .inl (.later hk h)
        · exact .inr ⟨rfl, List.forall_mem_cons.mpr ⟨hk, h⟩⟩
      · rintro (h | ⟨rfl, h⟩)
        · cases h with
          | here h => cases hk.symm.trans h
          | later _ h => exact .inl h
        · exact .inr ⟨rfl, (List.forall_mem_cons.mp h).2⟩
    | some w =>
      have hstep : firstPresent fs (k :: ks) = w := by
        simp only [firstPresent, List.findSome?_cons, hk, Option.getD_some]
      rw [hstep]
      constructor
      · rintro rfl
        exact .inl (.here hk)
      · rintro (h | ⟨-, h⟩)
        · cases h with
          | here h => exact Option.some.inj (hk.symm.trans h)
          | later h _ => cases hk.symm.trans h
        · cases hk.symm.trans (List.forall_mem_cons.mp h).1

theorem objects_eq_ok_iff {path : Text} {vs : List Value} {rs : List RawRecord} :
    objects path vs = .ok rs ↔ vs = rs.map .object := by
  induction vs generalizing rs with
  | nil => cases rs <;> simp [objects]
  | cons v vs ih =>
    cases v with
    | object fs =>
      rw [objects, map_eq_ok_iff]
      cases rs with
      | nil => simp
      | cons r rs => simp [ih, and_comm]
    | _ => cases rs <;> simp [objects]

theorem records_eq_ok_iff {path : Text} {v : Value} {rs : List RawRecord} :
    records path v = .ok rs ↔ v = .list (rs.map .object) := by
  cases v with
  | list vs => simp [records, objects_eq_ok_iff]
  | _ => simp [records]

theorem groupOfMember_eq_ok_iff {m : Field} {g : Group RawRecord} :
    groupOfMember m = .ok g ↔ m = (g.1, .list (g.2.map .object)) := by
  obtain ⟨path, v⟩ := m
  obtain ⟨path', rs⟩ := g
  rw [groupOfMember, map_eq_ok_iff]
  simp only [records_eq_ok_iff, Prod.mk.injEq]
  constructor
  · rintro ⟨_, rfl, rfl, rfl⟩
    exact ⟨rfl, rfl⟩
  · rintro ⟨rfl, rfl⟩
    exact ⟨_, rfl, rfl, rfl⟩

theorem lists_iff {fs : List Field} {vs : List Value} :
    Lists fs vs ↔ (if (firstPresent fs recordKeys).isFalsy then Value.list []
      else firstPresent fs recordKeys) = .list vs := by
  constructor
  · intro h
    have hkeys : recordKeys = (["errors", "messages", "warnings"] : List Text) := rfl
    rw [hkeys]
    cases h with
    | missing h =>
      rw [firstPresent_eq_iff.mpr (.inr ⟨rfl, h⟩)]
      rfl
    | falsy h hv =>
      rw [firstPresent_eq_iff.mpr (.inl h), if_pos hv]
    | list h =>
      rw [firstPresent_eq_iff.mpr (.inl h)]
      cases vs <;> simp [Value.isFalsy]
  · intro h
    rcases firstPresent_eq_iff.mp (rfl : firstPresent fs recordKeys = _) with hv | ⟨hnull, hnone⟩
    · by_cases hfalsy : (firstPresent fs recordKeys).isFalsy = true
      · rw [if_pos hfalsy] at h
        cases h
        exact .falsy hv hfalsy
      · rw [if_neg hfalsy] at h
        rw [h] at hv
        exact .list hv
    · rw [hnull] at h
      cases h
      exact .missing hnone

theorem groupOfEntry_eq_ok_iff {i : Nat} {v : Value} {g : Group RawRecord} :
    groupOfEntry i v = .ok g ↔ IsEntry v g.1 (g.2.map .object) := by
  obtain ⟨path, rs⟩ := g
  constructor
  · intro h
    unfold groupOfEntry at h
    split at h
    · next fs =>
      split at h
      · next path' hpath =>
        split at h
        · cases h
        · next hblank =>
          obtain ⟨rs', hrs, he⟩ := map_eq_ok_iff.mp h
          cases he
          rcases firstPresent_eq_iff.mp hpath with hpath | ⟨hnull, -⟩
          · exact .object hpath (Bool.not_eq_true _ ▸ hblank)
              (lists_iff.mpr (records_eq_ok_iff.mp hrs))
          · cases hnull
      · cases h
    · cases h
  · intro h
    cases h with
    | object hpath hblank hvs =>
      have hrs : records path _ = .ok rs := records_eq_ok_iff.mpr (lists_iff.mp hvs)
      have hpresent : firstPresent _ pathKeys = .text path := firstPresent_eq_iff.mpr (.inl hpath)
      simp only [groupOfEntry, hpresent, hblank, hrs, Bool.false_eq_true, if_false]
      rfl

/-! ### Groups -/

theorem untilFault_eq_none_iff {α : Type} {rs : List (Except Fault α)} {as : List α} :
    untilFault rs = (as, none) ↔ List.Forall₂ (fun r a => r = .ok a) rs as := by
  induction rs generalizing as with
  | nil =>
    rw [List.forall₂_nil_left_iff]
    simp [untilFault, eq_comm]
  | cons r rs ih =>
    rw [List.forall₂_cons_left_iff]
    cases r with
    | error f => simp [untilFault]
    | ok a =>
      cases h : untilFault rs with
      | mk as' o =>
        simp only [untilFault, h, ← ih, Prod.mk.injEq, Except.ok.injEq]
        constructor
        · rintro ⟨rfl, rfl⟩
          exact ⟨a, as', rfl, ⟨rfl, rfl⟩, rfl⟩
        · rintro ⟨_, _, rfl, ⟨rfl, rfl⟩, rfl⟩
          exact ⟨rfl, rfl⟩

theorem untilFault_append {α : Type} {rs rs' : List (Except Fault α)} {as : List α}
    (h : untilFault rs = (as, none)) :
    untilFault (rs ++ rs') = (as ++ (untilFault rs').1, (untilFault rs').2) := by
  induction rs generalizing as with
  | nil =>
    cases h
    rfl
  | cons r rs ih =>
    cases r with
    | error f => cases h
    | ok a =>
      cases hrs : untilFault rs with
      | mk as' o =>
        rw [untilFault, hrs] at h
        cases h
        rw [List.cons_append, untilFault, ih hrs]
        rfl

theorem untilFault_eq_some_iff {α : Type} {rs : List (Except Fault α)} {as : List α} {f : Fault} :
    untilFault rs = (as, some f) ↔
      ∃ before after, rs = before ++ .error f :: after ∧ untilFault before = (as, none) := by
  constructor
  · intro h
    induction rs generalizing as with
    | nil => cases h
    | cons r rs ih =>
      cases r with
      | error f' =>
        cases h
        exact ⟨[], rs, rfl, rfl⟩
      | ok a =>
        cases hrs : untilFault rs with
        | mk as' o =>
          rw [untilFault, hrs] at h
          cases h
          obtain ⟨before, after, rfl, hbefore⟩ := ih hrs
          exact ⟨.ok a :: before, after, rfl, by rw [untilFault, hbefore]⟩
  · rintro ⟨before, after, rfl, h⟩
    rw [untilFault_append h, untilFault, List.append_nil]

theorem forall₂_mapIdx_iff {α β γ : Type} {f : Nat → α → β} {R : β → γ → Prop} {S : α → γ → Prop}
    (hf : ∀ i a c, R (f i a) c ↔ S a c) {as : List α} {cs : List γ} :
    List.Forall₂ R (as.mapIdx f) cs ↔ List.Forall₂ S as cs := by
  induction as generalizing f cs with
  | nil => rw [List.mapIdx_nil, List.forall₂_nil_left_iff, List.forall₂_nil_left_iff]
  | cons a as ih =>
    rw [List.mapIdx_cons, List.forall₂_cons_left_iff, List.forall₂_cons_left_iff]
    simp only [hf, ih fun i a c => hf (i + 1) a c]

/-- The groups of a value, one for each of its members or entries. -/
inductive Groups : Value → List (Group RawRecord) → Prop
  | object {fs : List Field} {gs : List (Group RawRecord)}
    (h : List.Forall₂ (fun m g => m = (g.1, Value.list (g.2.map .object))) fs gs) :
    Groups (.object fs) gs
  | list {vs : List Value} {gs : List (Group RawRecord)}
    (h : List.Forall₂ (fun v g => IsEntry v g.1 (g.2.map .object)) vs gs) : Groups (.list vs) gs

theorem groups_eq_none_iff {v : Value} {gs : List (Group RawRecord)} :
    groups v = (gs, none) ↔ Groups v gs := by
  constructor
  · intro h
    cases v with
    | object fs =>
      rw [groups, untilFault_eq_none_iff, List.forall₂_map_left_iff] at h
      exact .object (h.imp fun m g => groupOfMember_eq_ok_iff.mp)
    | list vs =>
      rw [groups, untilFault_eq_none_iff,
        forall₂_mapIdx_iff fun i v g => groupOfEntry_eq_ok_iff] at h
      exact .list h
    | _ => cases h
  · intro h
    cases h with
    | object h =>
      rw [groups, untilFault_eq_none_iff, List.forall₂_map_left_iff]
      exact h.imp fun m g => groupOfMember_eq_ok_iff.mpr
    | list h =>
      rw [groups, untilFault_eq_none_iff, forall₂_mapIdx_iff fun i v g => groupOfEntry_eq_ok_iff]
      exact h

theorem allGroups_eq_ok_iff {v : Value} {gs : List (Group RawRecord)} :
    allGroups v = .ok gs ↔ Groups v gs := by
  rw [← groups_eq_none_iff, allGroups]
  rcases groups v with ⟨gs', _ | f⟩ <;> simp

theorem allGroups_eq_error_iff {v : Value} {f : Fault} :
    allGroups v = .error f ↔ ∃ gs, groups v = (gs, some f) := by
  rw [allGroups]
  rcases groups v with ⟨gs, _ | f'⟩ <;> simp

/-! ### Checked records -/

theorem checkAll_eq_ok_iff {ρ : Type} {type : RecordType} {rule : Rule ρ} {g : Group RawRecord}
    {rs : List RawRecord} {as : List ρ} :
    checkGroup.checkAll type rule g rs = .ok as ↔
      List.Forall₂ (fun r a => rule (.object r) = .ok a) rs as := by
  induction rs generalizing as with
  | nil =>
    rw [List.forall₂_nil_left_iff]
    simp [checkGroup.checkAll, eq_comm]
  | cons r rs ih =>
    rw [List.forall₂_cons_left_iff, checkGroup.checkAll]
    cases rule (.object r) with
    | ok a =>
      simp only [map_eq_ok_iff, ih, Check.ok.injEq]
      constructor
      · rintro ⟨as', h, rfl⟩
        exact ⟨a, as', rfl, h, rfl⟩
      · rintro ⟨_, as', rfl, h, rfl⟩
        exact ⟨as', h, rfl⟩
    | problems ps => simp
    | fault f => simp

theorem checkGroup_eq_ok_iff {ρ : Type} {type : RecordType} {rule : Rule ρ} {g : Group RawRecord}
    {g' : Group ρ} :
    checkGroup type rule g = .ok g' ↔
      g'.1 = g.1 ∧ List.Forall₂ (fun r a => rule (.object r) = .ok a) g.2 g'.2 := by
  obtain ⟨path, as⟩ := g'
  rw [checkGroup, map_eq_ok_iff]
  simp only [checkAll_eq_ok_iff, Prod.mk.injEq]
  constructor
  · rintro ⟨_, h, rfl, rfl⟩
    exact ⟨rfl, h⟩
  · rintro ⟨rfl, h⟩
    exact ⟨_, h, rfl, rfl⟩

theorem loadTyped_eq_ok_iff {ρ : Type} {type : RecordType} {rule : Rule ρ} {t : Text}
    {gs : List (Group ρ)} :
    loadTyped type rule t = .ok gs ↔ ∃ v raw, decode t = .ok v ∧ Groups v raw ∧
      List.Forall₂ (fun g g' => g'.1 = g.1 ∧
        List.Forall₂ (fun r a => rule (.object r) = .ok a) g.2 g'.2) raw gs := by
  simp only [loadTyped, load, bind_eq_ok_iff, allGroups_eq_ok_iff, mapM_eq_ok_iff,
    checkGroup_eq_ok_iff]
  constructor
  · rintro ⟨raw, ⟨v, hv, hraw⟩, hgs⟩
    exact ⟨v, raw, hv, hraw, hgs⟩
  · rintro ⟨v, raw, hv, hraw, hgs⟩
    exact ⟨raw, ⟨v, hv, hraw⟩, hgs⟩

end WebLint.Payload
