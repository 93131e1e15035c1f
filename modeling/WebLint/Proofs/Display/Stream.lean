import Mathlib.Data.List.Infix
import WebLint.Display.Stream

namespace WebLint

namespace Text

variable {s t u : Text} {n : Nat} {c d : Code}

/-- A sequence that controls a terminal: an escape and a bracket, digits, semicolons and question
marks, and a letter. -/
inductive IsControl : Text → Prop
  | intro {ps : Text} {c : Code} (hps : ∀ p ∈ ps, p.isAsciiDigit = true ∨ p = ';' ∨ p = '?')
    (hc : c.isAsciiLetter = true) : IsControl (Code.ofNat 0x1b :: '[' :: (ps ++ [c]))

/-- No part of the text controls a terminal. -/
def HasNoControls (t : Text) : Prop :=
  ∀ s, IsControl s → ¬ s <:+: t

/-- `u` is what is left of `t` without the control sequences that are met from left to right. -/
inductive Strips : Text → Text → Prop
  | nil : Strips [] []
  | control {s t u : Text} (hs : IsControl s) (h : Strips t u) : Strips (s ++ t) u
  | plain {c : Code} {t u : Text} (hc : ∀ s, IsControl s → ¬ s <+: c :: t) (h : Strips t u) :
    Strips (c :: t) (c :: u)

theorem IsControl.ne_nil (h : IsControl s) : s ≠ [] := by
  cases h
  exact List.cons_ne_nil _ _

def isControlCode (c : Code) : Bool :=
  c == Code.ofNat 0x1b || c == '[' || c == ';' || c == '?' || c.isAsciiDigit || c.isAsciiLetter

theorem IsControl.isControlCode (h : IsControl s) (hc : c ∈ s) : isControlCode c = true := by
  cases h with
  | intro hps hletter =>
    simp only [List.mem_cons, List.mem_append, List.not_mem_nil, or_false] at hc
    obtain rfl | rfl | hc | rfl := hc
    · rfl
    · rfl
    · obtain h | rfl | rfl := hps c hc
      · simp [Text.isControlCode, h]
      · rfl
      · rfl
    · simp [Text.isControlCode, hletter]

theorem IsControl.exists_cons (h : IsControl s) : ∃ r, s = Code.ofNat 0x1b :: r := by
  cases h
  exact ⟨_, rfl⟩

theorem hasNoControls_of_not_mem (h : Code.ofNat 0x1b ∉ t) : t.HasNoControls := by
  intro s hs hpart
  obtain ⟨r, rfl⟩ := hs.exists_cons
  exact h (List.IsInfix.subset hpart (List.mem_cons_self ..))

/-! ### Finding a sequence -/

theorem isParameter_iff : isParameter c = true ↔ c.isAsciiDigit = true ∨ c = ';' ∨ c = '?' := by
  simp [isParameter, or_assoc]

theorem isParameter_of_isAsciiLetter (h : c.isAsciiLetter = true) : isParameter c = false := by
  rw [← Bool.not_eq_true, isParameter_iff]
  rintro (hc | rfl | rfl)
  · simp only [Code.isAsciiLetter, Code.isAsciiDigit, Bool.or_eq_true, Bool.and_eq_true,
      decide_eq_true_eq] at h hc
    omega
  · cases h
  · cases h

theorem parametersLength?_append {ps r : Text} (hps : ∀ p ∈ ps, isParameter p = true)
    (hc : c.isAsciiLetter = true) : parametersLength? (ps ++ c :: r) = some (ps.length + 1) := by
  induction ps with
  | nil => simp [parametersLength?, isParameter_of_isAsciiLetter hc, hc]
  | cons p ps ih =>
    obtain ⟨hp, hps⟩ := List.forall_mem_cons.mp hps
    simp [parametersLength?, hp, ih hps]

theorem exists_of_parametersLength? (h : parametersLength? t = some n) :
    ∃ ps c r, t = ps ++ c :: r ∧ (∀ p ∈ ps, isParameter p = true) ∧ c.isAsciiLetter = true ∧
      n = ps.length + 1 := by
  induction t generalizing n with
  | nil => cases h
  | cons d t ih =>
    rw [parametersLength?] at h
    split at h
    · next hd =>
      obtain ⟨m, hm, rfl⟩ := Option.map_eq_some_iff.mp h
      obtain ⟨ps, c, r, rfl, hps, hc, rfl⟩ := ih hm
      exact ⟨d :: ps, c, r, rfl, List.forall_mem_cons.mpr ⟨hd, hps⟩, hc, rfl⟩
    · split at h
      · next hd =>
        cases h
        exact ⟨[], d, t, rfl, List.forall_mem_nil _, hd, rfl⟩
      · cases h

theorem controlLength?_append (hs : IsControl s) (t : Text) :
    controlLength? (s ++ t) = some s.length := by
  cases hs with
  | @intro ps c hps hc =>
    have hlength := parametersLength?_append (r := t) (fun p hp => isParameter_iff.mpr (hps p hp)) hc
    rw [List.cons_append, List.cons_append, List.append_assoc, List.singleton_append,
      controlLength?, if_pos ⟨rfl, rfl⟩, hlength]
    simp

theorem exists_of_controlLength? (h : controlLength? t = some n) :
    ∃ s r, IsControl s ∧ t = s ++ r ∧ s.length = n := by
  unfold controlLength? at h
  split at h
  · next c d r =>
    split at h
    · next hlead =>
      obtain ⟨rfl, rfl⟩ := hlead
      obtain ⟨m, hm, rfl⟩ := Option.map_eq_some_iff.mp h
      obtain ⟨ps, c, r, rfl, hps, hc, rfl⟩ := exists_of_parametersLength? hm
      exact ⟨_, r, .intro (fun p hp => isParameter_iff.mp (hps p hp)) hc, by simp [escape], by simp⟩
    · cases h
  · cases h

theorem controlLength?_eq_none_iff :
    controlLength? t = none ↔ ∀ s, IsControl s → ¬ s <+: t := by
  constructor
  · rintro h s hs ⟨r, rfl⟩
    rw [controlLength?_append hs] at h
    cases h
  · intro h
    cases hlength : controlLength? t with
    | none => rfl
    | some n =>
      obtain ⟨s, r, hs, rfl, -⟩ := exists_of_controlLength? hlength
      exact absurd (List.prefix_append s r) (h s hs)

/-! ### Leaving sequences out -/

theorem withoutControlsFrom_eq_drop (n : Nat) (t : Text) :
    withoutControlsFrom n t = withoutControls (t.drop n) := by
  induction t generalizing n with
  | nil => cases n <;> rfl
  | cons c t ih =>
    cases n with
    | zero => rfl
    | succ n => exact ih n

theorem withoutControls_append (hs : IsControl s) (t : Text) :
    (s ++ t).withoutControls = t.withoutControls := by
  obtain ⟨c, r, rfl⟩ := List.exists_cons_of_ne_nil hs.ne_nil
  have hlength := controlLength?_append hs t
  rw [List.cons_append] at hlength ⊢
  rw [withoutControls, withoutControlsFrom, hlength]
  simp only [List.length_cons, Nat.add_sub_cancel]
  rw [withoutControlsFrom_eq_drop, List.drop_left]

theorem withoutControls_cons (hc : ∀ s, IsControl s → ¬ s <+: c :: t) :
    withoutControls (c :: t) = c :: t.withoutControls := by
  rw [withoutControls, withoutControlsFrom, controlLength?_eq_none_iff.mpr hc]
  rfl

theorem strips_withoutControls (t : Text) : Strips t t.withoutControls := by
  induction hn : t.length using Nat.strongRecOn generalizing t with
  | _ n ih =>
    cases t with
    | nil => exact .nil
    | cons c t =>
      cases hlength : controlLength? (c :: t) with
      | none =>
        have hc := controlLength?_eq_none_iff.mp hlength
        rw [withoutControls_cons hc]
        refine .plain hc (ih t.length ?_ t rfl)
        rw [← hn, List.length_cons]
        exact Nat.lt_succ_self _
      | some m =>
        obtain ⟨s, r, hs, ht, -⟩ := exists_of_controlLength? hlength
        rw [ht, withoutControls_append hs]
        refine .control hs (ih r.length ?_ r rfl)
        have hpos := List.length_pos_iff.mpr hs.ne_nil
        rw [← hn, ht, List.length_append]
        omega

theorem strips_iff : Strips t u ↔ t.withoutControls = u := by
  constructor
  · intro h
    induction h with
    | nil => rfl
    | control hs _ ih => rw [withoutControls_append hs, ih]
    | plain hc _ ih => rw [withoutControls_cons hc, ih]
  · rintro rfl
    exact strips_withoutControls t

theorem Strips.length_le (h : Strips t u) : u.length ≤ t.length := by
  induction h with
  | nil => exact Nat.le_refl 0
  | control hs _ ih =>
    rw [List.length_append]
    omega
  | plain _ _ ih => exact Nat.succ_le_succ ih

/-- Only a text without control sequences stays as it is. -/
theorem Strips.eq_iff (h : Strips t u) : u = t ↔ t.HasNoControls := by
  induction h with
  | nil => exact iff_of_true rfl fun s hs hpart => hs.ne_nil (List.infix_nil.mp hpart)
  | @control s t u hs h _ =>
    refine iff_of_false (fun heq => ?_) fun hnone => hnone s hs (List.infix_append [] s t)
    have hle := h.length_le
    have hpos := List.length_pos_iff.mpr hs.ne_nil
    rw [heq, List.length_append] at hle
    omega
  | @plain c t u hc h ih =>
    rw [List.cons.injEq, and_iff_right rfl, ih]
    refine forall₂_congr fun s hs => not_congr ?_
    rw [List.infix_cons_iff, or_iff_right (hc s hs)]

theorem hasNoControls_append_lineFeed : HasNoControls (t ++ [lineFeed]) ↔ t.HasNoControls := by
  refine forall₂_congr fun s hs => not_congr ?_
  rw [List.infix_concat_iff, or_iff_right]
  rintro ⟨r, hr⟩
  have hlast := congrArg List.getLast? hr
  rw [List.getLast?_append_of_ne_nil _ hs.ne_nil, List.getLast?_concat] at hlast
  cases hs.isControlCode (List.mem_of_getLast? hlast)

end Text

end WebLint
