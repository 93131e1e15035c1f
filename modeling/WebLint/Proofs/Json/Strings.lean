import WebLint.Json.Reader

namespace WebLint.Json

/-- The number of a surrogate that asks for a low one behind it. -/
def IsHigh (n : Nat) : Prop :=
  0xd800 ≤ n ∧ n ≤ 0xdbff

def IsLow (n : Nat) : Prop :=
  0xdc00 ≤ n ∧ n ≤ 0xdfff

def escaped (a b c d : Code) (t : Text) : Text :=
  '\\' :: 'u' :: a :: b :: c :: d :: t

/-- An escape of a low surrogate stands at the start of a text. -/
def StartsLow (t : Text) : Prop :=
  ∃ a b c d n r, t = escaped a b c d r ∧ hexQuad? a b c d = some n ∧ IsLow n

/-- A text that ends with its closing quote, and the string that it spells. -/
inductive Spells : Text → Text → Prop
  | quote : Spells ['"'] []
  | plain {c : Code} {t s : Text} (hquote : c ≠ '"') (hescape : c ≠ '\\') (hc : 0x20 ≤ c.val)
    (h : Spells t s) : Spells (c :: t) (c :: s)
  | letter {e d : Code} {t s : Text} (hd : letterEscape? e = some d) (h : Spells t s) :
    Spells ('\\' :: e :: t) (d :: s)
  | code {a b c d : Code} {n : Nat} {t s : Text} (hn : hexQuad? a b c d = some n)
    (hlone : IsHigh n → ¬ StartsLow t) (h : Spells t s) :
    Spells (escaped a b c d t) (Code.ofNat n :: s)
  | pair {a b c d a' b' c' d' : Code} {n m : Nat} {t s : Text} (hn : hexQuad? a b c d = some n)
    (hhigh : IsHigh n) (hm : hexQuad? a' b' c' d' = some m) (hlow : IsLow m) (h : Spells t s) :
    Spells (escaped a b c d (escaped a' b' c' d' t))
      (Code.ofNat (0x10000 + (n - 0xd800) * 0x400 + (m - 0xdc00)) :: s)

/-! ### Surrogates -/

variable {a b c d : Code} {n : Nat} {r : Text}

theorem lowSurrogate?_of_isLow (q : Code) (hn : hexQuad? a b c d = some n) (hlow : IsLow n) :
    lowSurrogate? (escaped a b c d (q :: r)) = .ok (some n, q :: r) := by
  unfold IsLow at hlow
  simp only [escaped, lowSurrogate?, and_self, if_true, hn, hlow]

theorem lowSurrogate?_of_not_isLow (q : Code) (hn : hexQuad? a b c d = some n)
    (hlow : ¬ IsLow n) : lowSurrogate? (escaped a b c d (q :: r)) = .ok (none, q :: r) := by
  unfold IsLow at hlow
  simp only [escaped, lowSurrogate?, and_self, if_true, hn, hlow, if_false]

theorem IsHigh.not_isLow (h : IsHigh n) : ¬ IsLow n := by
  have := h.2
  rintro ⟨hlow, -⟩
  omega

theorem lowSurrogate?_of_ne {s : Code} (hs : s ≠ '\\') :
    lowSurrogate? (s :: r) = .ok (none, []) := by
  unfold lowSurrogate?
  split
  · next h =>
    obtain ⟨rfl, -⟩ := List.cons.inj h
    rw [if_neg fun h => hs h.1]
  · rfl

theorem lowSurrogate?_of_letter {s e : Code} (he : e ≠ 'u') :
    lowSurrogate? (s :: e :: r) = .ok (none, []) := by
  unfold lowSurrogate?
  split
  · next h =>
    obtain ⟨-, h⟩ := List.cons.inj h
    obtain ⟨rfl, -⟩ := List.cons.inj h
    rw [if_neg fun h => he h.2]
  · rfl

theorem lowSurrogate?_eq_some {t : Text} {m : Nat} (h : lowSurrogate? t = .ok (some m, r)) :
    ∃ a b c d, t = escaped a b c d r ∧ hexQuad? a b c d = some m ∧ IsLow m := by
  unfold lowSurrogate? at h
  split at h
  · split at h
    · next hs =>
      obtain ⟨rfl, rfl⟩ := hs
      split at h
      · cases h
      · next hn =>
        obtain ⟨hm, rfl⟩ := Prod.mk.inj (Except.ok.inj h)
        split at hm
        · next hlow =>
          cases hm
          exact ⟨_, _, _, _, rfl, hn, hlow⟩
        · cases hm
    · cases h
  · cases h

theorem lowSurrogate?_eq_error {t : Text} {e : Failure} (h : lowSurrogate? t = .error e) :
    ∃ rest, e = .malformed .unknownCodeEscape rest := by
  unfold lowSurrogate? at h
  split at h
  · split at h
    · split at h
      · cases h
        exact ⟨_, rfl⟩
      · cases h
    · cases h
  · cases h

/-! ### What a text spells -/

theorem ne_u_of_letterEscape? {e d : Code} (h : letterEscape? e = some d) : e ≠ 'u' := by
  rintro rfl
  cases h

theorem Spells.ne_nil {t s : Text} (h : Spells t s) : t ≠ [] := by
  cases h <;> exact List.cons_ne_nil _ _

theorem Spells.ne_nil_of_escaped {t s : Text} (h : Spells (escaped a b c d t) s) : t ≠ [] := by
  generalize ht : escaped a b c d t = t' at h
  cases h with
  | quote => cases ht
  | plain _ hescape => exact absurd (List.cons.inj ht).1.symm hescape
  | letter hd =>
    have hu := (List.cons.inj (List.cons.inj ht).2).1
    exact absurd hu.symm (ne_u_of_letterEscape? hd)
  | code _ _ h =>
    cases ht
    exact h.ne_nil
  | pair =>
    cases ht
    exact List.cons_ne_nil _ _

theorem Spells.lowSurrogate?_append {t s : Text} (h : Spells t s) (hlow : ¬ StartsLow t)
    (u : Text) : ∃ r, lowSurrogate? (t ++ u) = .ok (none, r) := by
  cases h with
  | quote => exact ⟨[], lowSurrogate?_of_ne (by decide)⟩
  | plain _ hescape => exact ⟨[], lowSurrogate?_of_ne hescape⟩
  | letter hd => exact ⟨[], lowSurrogate?_of_letter (ne_u_of_letterEscape? hd)⟩
  | code hn _ h =>
    obtain ⟨q, r, rfl⟩ := List.exists_cons_of_ne_nil h.ne_nil
    exact ⟨_, lowSurrogate?_of_not_isLow q hn fun h => hlow ⟨_, _, _, _, _, _, rfl, hn, h⟩⟩
  | pair hn hhigh => exact ⟨_, lowSurrogate?_of_not_isLow _ hn hhigh.not_isLow⟩

theorem stringBody_escaped {start : Text} (hn : hexQuad? a b c d = some n) (hr : r ≠ [])
    (hlone : IsHigh n → ∃ r', lowSurrogate? r = .ok (none, r')) :
    stringBody start (escaped a b c d r) = andThen (Code.ofNat n) (stringBody start r) := by
  obtain ⟨z, r, rfl⟩ := List.exists_cons_of_ne_nil hr
  have hquote : (Code.ofChar '\\') ≠ '"' := by decide
  rw [escaped, stringBody.eq_def]
  simp only [hn, hquote, if_true, if_false]
  by_cases hhigh : 0xd800 ≤ n ∧ n ≤ 0xdbff
  · obtain ⟨r', hr'⟩ := hlone hhigh
    rw [if_pos hhigh]
    split
    · simp only [hr']
    · rfl
  · rw [if_neg hhigh]

theorem stringBody_pair {a' b' c' d' : Code} {m : Nat} {start : Text}
    (hn : hexQuad? a b c d = some n) (hhigh : IsHigh n) (hm : hexQuad? a' b' c' d' = some m)
    (hlow : IsLow m) (hr : r ≠ []) :
    stringBody start (escaped a b c d (escaped a' b' c' d' r)) =
      andThen (Code.ofNat (0x10000 + (n - 0xd800) * 0x400 + (m - 0xdc00)))
        (stringBody start r) := by
  obtain ⟨q, r, rfl⟩ := List.exists_cons_of_ne_nil hr
  have hquote : (Code.ofChar '\\') ≠ '"' := by decide
  have hm' := lowSurrogate?_of_isLow (r := r) q hm hlow
  rw [escaped] at hm'
  have hhigh' : 0xd800 ≤ n ∧ n ≤ 0xdbff := hhigh
  rw [escaped, stringBody.eq_def]
  simp only [escaped, hn, hquote, hhigh', hm', if_true, if_false]
  rfl

theorem andThen_eq_ok_iff {x : Read Text} {s : Text} :
    andThen c x = .ok (s, r) ↔ ∃ s', x = .ok (s', r) ∧ s = c :: s' := by
  rcases x with e | ⟨s', r'⟩
  · simp [andThen]
  · simp only [andThen, Except.ok.injEq, Prod.mk.injEq]
    constructor
    · rintro ⟨rfl, rfl⟩
      exact ⟨s', ⟨rfl, rfl⟩, rfl⟩
    · rintro ⟨_, ⟨rfl, rfl⟩, rfl⟩
      exact ⟨rfl, rfl⟩

theorem andThen_eq_error_iff {x : Read Text} {e : Failure} :
    andThen c x = .error e ↔ x = .error e := by
  rcases x with e' | ⟨s, r⟩ <;> simp [andThen]

theorem Spells.stringBody_append {t s : Text} (h : Spells t s) (start u : Text) :
    stringBody start (t ++ u) = .ok (s, u) := by
  induction h with
  | quote =>
    rw [stringBody.eq_def]
    rfl
  | plain hquote hescape hc _ ih =>
    rw [List.cons_append, stringBody.eq_def]
    dsimp only
    rw [if_neg hquote, if_neg hescape, if_neg (by omega), ih]
    rfl
  | letter hd _ ih =>
    rw [stringBody.eq_def]
    simp only [List.cons_append, ne_u_of_letterEscape? hd, hd, ih]
    rfl
  | code hn hlone h ih =>
    refine (stringBody_escaped hn ?_ fun hhigh => h.lowSurrogate?_append (hlone hhigh) u).trans ?_
    · exact List.append_ne_nil_of_left_ne_nil h.ne_nil u
    · exact andThen_eq_ok_iff.mpr ⟨_, ih, rfl⟩
  | pair hn hhigh hm hlow h ih =>
    refine (stringBody_pair hn hhigh hm hlow ?_).trans ?_
    · exact List.append_ne_nil_of_left_ne_nil h.ne_nil u
    · exact andThen_eq_ok_iff.mpr ⟨_, ih, rfl⟩

/-- A string is read where a text spells it, and what follows is left. -/
theorem stringBody_eq_ok_iff {start t s rest : Text} :
    stringBody start t = .ok (s, rest) ↔ ∃ c, Spells c s ∧ t = c ++ rest := by
  constructor
  · intro h
    fun_induction stringBody start t generalizing s
    case case2 r =>
      cases h
      exact ⟨_, .quote, rfl⟩
    case case6 hn hhigh z u a b c d q r m r' hsome _ ih =>
      obtain ⟨s', hs, rfl⟩ := andThen_eq_ok_iff.mp h
      obtain ⟨t, ht, he⟩ := ih hs
      obtain ⟨a', b', c', d', hescape, hm, hlow⟩ := lowSurrogate?_eq_some hsome
      cases hescape
      rw [he]
      exact ⟨_, .pair hn hhigh hm hlow ht, rfl⟩
    case case7 hn hhigh z u a b c d q r r' hnone _ ih =>
      obtain ⟨s', hs, rfl⟩ := andThen_eq_ok_iff.mp h
      obtain ⟨t, ht, he⟩ := ih hs
      refine ⟨_, .code hn (fun _ => ?_) ht, by rw [he]; rfl⟩
      -- behind an escape of a low surrogate stands a quote at least, so it would have been found
      rintro ⟨a', b', c', d', m, r, rfl, hm, hlow⟩
      obtain ⟨q', r, rfl⟩ := List.exists_cons_of_ne_nil ht.ne_nil_of_escaped
      rw [he] at hnone
      cases (lowSurrogate?_of_isLow q' hm hlow).symm.trans hnone
    case case8 hn hhigh z r hshort _ ih =>
      obtain ⟨s', hs, rfl⟩ := andThen_eq_ok_iff.mp h
      obtain ⟨t, ht, he⟩ := ih hs
      refine ⟨_, .code hn (fun _ => ?_) ht, by rw [he]; rfl⟩
      rintro ⟨a', b', c', d', m, r, rfl, hm, hlow⟩
      obtain ⟨q', r, rfl⟩ := List.exists_cons_of_ne_nil ht.ne_nil_of_escaped
      exact hshort _ _ _ _ _ _ _ (List.cons.inj he).2
    case case9 hn hhigh _ ih =>
      obtain ⟨s', hs, rfl⟩ := andThen_eq_ok_iff.mp h
      obtain ⟨t, ht, he⟩ := ih hs
      rw [he]
      exact ⟨_, .code hn (fun h => absurd h hhigh) ht, rfl⟩
    case case11 hd _ ih =>
      obtain ⟨s', hs, rfl⟩ := andThen_eq_ok_iff.mp h
      obtain ⟨t, ht, rfl⟩ := ih hs
      exact ⟨_, .letter hd ht, rfl⟩
    case case14 hquote hescape hc ih =>
      obtain ⟨s', hs, rfl⟩ := andThen_eq_ok_iff.mp h
      obtain ⟨t, ht, rfl⟩ := ih hs
      exact ⟨_, .plain hquote hescape (by omega) ht, rfl⟩
    all_goals cases h
  · rintro ⟨c, h, rfl⟩
    exact h.stringBody_append start rest

/-- What stops a string is neither a missing value nor an integer. -/
theorem stringBody_error {start t : Text} {e : Failure} (h : stringBody start t = .error e) :
    ∃ why rest, e = .malformed why rest ∧ why ≠ .expectingValue := by
  fun_induction stringBody start t
  case case2 => cases h
  case case5 hwhy _ =>
    cases h
    obtain ⟨rest, rfl⟩ := lowSurrogate?_eq_error hwhy
    exact ⟨_, _, rfl, by decide⟩
  case case6 ih => exact ih (andThen_eq_error_iff.mp h)
  case case7 ih => exact ih (andThen_eq_error_iff.mp h)
  case case8 ih => exact ih (andThen_eq_error_iff.mp h)
  case case9 ih => exact ih (andThen_eq_error_iff.mp h)
  case case11 ih => exact ih (andThen_eq_error_iff.mp h)
  case case14 ih => exact ih (andThen_eq_error_iff.mp h)
  all_goals
    cases h
    exact ⟨_, _, rfl, by decide⟩

end WebLint.Json
