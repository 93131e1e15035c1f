import Mathlib.Data.List.Chain
import WebLint.Json.Writer
import WebLint.Proofs.Json.Strings

namespace WebLint.Json

instance (n : Nat) : Decidable (IsHigh n) :=
  inferInstanceAs (Decidable (_ ∧ _))

instance (n : Nat) : Decidable (IsLow n) :=
  inferInstanceAs (Decidable (_ ∧ _))

/-- A text in which each high surrogate with a low one behind it is one code point. -/
def joinSurrogates : Text → Text
  | [] => []
  | [c] => [c]
  | c :: d :: t =>
    if IsHigh c.val ∧ IsLow d.val then
      Code.ofNat (0x10000 + (c.val - 0xd800) * 0x400 + (d.val - 0xdc00)) :: joinSurrogates t
    else c :: joinSurrogates (d :: t)

def Unpaired (t : Text) : Prop :=
  t.IsChain fun c d => ¬ (IsHigh c.val ∧ IsLow d.val)

theorem unpaired_of_forall_not_isSurrogate {t : Text} (h : ∀ c ∈ t, c.isSurrogate = false) :
    Unpaired t := by
  induction t with
  | nil => exact .nil
  | cons c t ih =>
    obtain ⟨hc, ht⟩ := List.forall_mem_cons.mp h
    refine List.isChain_cons.mpr ⟨fun d _ hpair => ?_, ih ht⟩
    obtain ⟨⟨_, _⟩, -⟩ := hpair
    simp only [Code.isSurrogate, Bool.and_eq_false_iff, decide_eq_false_iff_not] at hc
    omega

/-! ### Joined texts -/

theorem joinSurrogates_of_unpaired {t : Text} (h : Unpaired t) : joinSurrogates t = t := by
  fun_induction joinSurrogates t with
  | case1 => rfl
  | case2 c => rfl
  | case3 c d t hpair => exact absurd hpair (List.isChain_cons_cons.mp h).1
  | case4 c d t _ ih => rw [ih (List.isChain_cons_cons.mp h).2]

/-- What is joined of two code points is none that could be joined again. -/
theorem not_isLow_head_joinSurrogates {t : Text} (h : ∀ c ∈ t.head?, ¬ IsLow c.val) :
    ∀ c ∈ (joinSurrogates t).head?, ¬ IsLow c.val := by
  fun_induction joinSurrogates t with
  | case1 => exact h
  | case2 => exact h
  | case4 => exact h
  | case3 c d t hpair =>
    intro e he
    obtain ⟨⟨_, _⟩, ⟨_, _⟩⟩ := hpair
    rw [← Option.some.inj he, Code.val_ofNat (by omega), IsLow]
    omega

theorem unpaired_joinSurrogates (t : Text) : Unpaired (joinSurrogates t) := by
  fun_induction joinSurrogates t with
  | case1 => exact .nil
  | case2 c => exact .singleton c
  | case3 c d t hpair ih =>
    obtain ⟨⟨_, _⟩, ⟨_, _⟩⟩ := hpair
    refine List.isChain_cons.mpr ⟨fun e _ h => ?_, ih⟩
    rw [Code.val_ofNat (by omega), IsHigh] at h
    omega
  | case4 c d t hpair ih =>
    refine List.isChain_cons.mpr ⟨fun e he h => ?_, ih⟩
    have hd : ∀ e ∈ (d :: t).head?, ¬ IsLow e.val := by
      rintro _ ⟨⟩ hlow
      exact hpair ⟨h.1, hlow⟩
    exact not_isLow_head_joinSurrogates hd e he h.2

theorem joinSurrogates_eq_self_iff {t : Text} : joinSurrogates t = t ↔ Unpaired t := by
  constructor
  · intro h
    rw [← h]
    exact unpaired_joinSurrogates t
  · exact joinSurrogates_of_unpaired

/-! ### Escapes -/

theorem hexValue?_hexDigit {n : Nat} (h : n < 16) : (hexDigit n).hexValue? = some n := by
  have hall : ∀ n : Fin 16, (hexDigit n).hexValue? = some n.val := by decide
  exact hall ⟨n, h⟩

theorem codeEscape_append {n : Nat} (h : n < 0x10000) (w : Text) :
    ∃ a b c d, codeEscape n ++ w = escaped a b c d w ∧ hexQuad? a b c d = some n := by
  have hdigit : ∀ m, (hexDigit (m % 16)).hexValue? = some (m % 16) :=
    fun m => hexValue?_hexDigit (Nat.mod_lt m (by decide))
  refine ⟨hexDigit (n / 16 / 16 / 16 % 16), hexDigit (n / 16 / 16 % 16), hexDigit (n / 16 % 16),
    hexDigit (n % 16), rfl, ?_⟩
  simp only [hexQuad?, hdigit, Option.some.injEq]
  omega

variable {c : Code} {w s : Text}

/-- A code point of the basic plane is written as itself or by an escape of its own. -/
inductive WritesOne (c : Code) : Text → Prop
  | plain (hquote : c ≠ '"') (hescape : c ≠ '\\') (hc : 0x20 ≤ c.val) : WritesOne c [c]
  | letter {e : Code} (he : letterEscape? e = some c) : WritesOne c ['\\', e]
  | code (h : c.val < 0x10000) : WritesOne c (codeEscape c.val)

theorem writesOne_writeCode (h : c.val < 0x10000) : WritesOne c (writeCode c) := by
  have hletter : ∀ {e : Code} {n : Nat}, c.val = n → letterEscape? e = some (Code.ofNat n) →
      WritesOne c ['\\', e] := by
    rintro e n rfl he
    rw [Code.ofNat_val] at he
    exact .letter he
  unfold writeCode
  split
  · next hc => exact .letter (by rw [letterEscape?, if_pos (or_assoc.mp (.inl hc))])
  · next hc =>
    split
    · next hprintable => exact .plain (fun h => hc (.inl h)) (fun h => hc (.inr h)) hprintable.1
    · split
      · next hn => exact hletter hn rfl
      · split
        · next hn => exact hletter hn rfl
        · split
          · next hn => exact hletter hn rfl
          · split
            · next hn => exact hletter hn rfl
            · split
              · next hn => exact hletter hn rfl
              · exact .code h

theorem writeCode_of_le (h : 0x10000 ≤ c.val) : writeCode c =
    codeEscape (0xd800 + (c.val - 0x10000) / 0x400) ++ codeEscape (0xdc00 + c.val % 0x400) := by
  have hletter : ∀ d : Code, d.val < 0x10000 → c ≠ d := by
    rintro d hd rfl
    omega
  rw [writeCode, if_neg (not_or.mpr ⟨hletter _ (by decide), hletter _ (by decide)⟩)]
  repeat rw [if_neg (by omega)]

theorem writeCode_of_surrogate (h : 0xd800 ≤ c.val ∧ c.val ≤ 0xdfff) :
    writeCode c = codeEscape c.val := by
  have hletter : ∀ d : Code, d.val < 0xd800 → c ≠ d := by
    rintro d hd rfl
    omega
  rw [writeCode, if_neg (not_or.mpr ⟨hletter _ (by decide), hletter _ (by decide)⟩)]
  repeat rw [if_neg (by omega)]
  exact if_pos (by omega)

/-! ### Written texts -/

theorem not_startsLow_of_ne {d : Code} (h : d ≠ '\\') : ¬ StartsLow (d :: w) := by
  rintro ⟨_, _, _, _, _, _, he, -⟩
  exact h (List.cons.inj he).1

theorem not_startsLow_letter {e d : Code} (h : letterEscape? e = some d) :
    ¬ StartsLow ('\\' :: e :: w) := by
  rintro ⟨_, _, _, _, _, _, he, -⟩
  exact ne_u_of_letterEscape? h (List.cons.inj (List.cons.inj he).2).1

theorem not_startsLow_codeEscape {n : Nat} (h : n < 0x10000) (hlow : ¬ IsLow n) :
    ¬ StartsLow (codeEscape n ++ w) := by
  obtain ⟨a, b, c, d, he, hn⟩ := codeEscape_append h w
  rw [he]
  rintro ⟨_, _, _, _, m, _, he, hm, hlow'⟩
  cases he
  cases hn.symm.trans hm
  exact hlow hlow'

theorem not_startsLow_writeCode (h : ¬ IsLow c.val) (w : Text) :
    ¬ StartsLow (writeCode c ++ w) := by
  by_cases hc : c.val < 0x10000
  · have hone := writesOne_writeCode hc
    generalize writeCode c = t at hone ⊢
    cases hone with
    | plain _ hescape => exact not_startsLow_of_ne hescape
    | letter he => exact not_startsLow_letter he
    | code => exact not_startsLow_codeEscape hc h
  · have := c.val_lt
    rw [writeCode_of_le (by omega), List.append_assoc]
    refine not_startsLow_codeEscape (by omega) ?_
    rw [IsLow]
    omega

theorem Spells.writeCode (h : Spells w s) (hlone : IsHigh c.val → ¬ StartsLow w) :
    Spells (writeCode c ++ w) (c :: s) := by
  by_cases hc : c.val < 0x10000
  · have hone := writesOne_writeCode hc
    generalize Json.writeCode c = t at hone ⊢
    cases hone with
    | plain hquote hescape hc => exact .plain hquote hescape hc h
    | letter he => exact .letter he h
    | code hc =>
      obtain ⟨_, _, _, _, he, hn⟩ := codeEscape_append hc w
      have hspells := Spells.code hn hlone h
      rw [Code.ofNat_val] at hspells
      rwa [he]
  · have := c.val_lt
    obtain ⟨_, _, _, _, he, hn⟩ := codeEscape_append (n := 0xdc00 + c.val % 0x400) (by omega) w
    have hlow : IsLow (0xdc00 + c.val % 0x400) := by
      rw [IsLow]
      omega
    obtain ⟨_, _, _, _, he', hn'⟩ := codeEscape_append
      (n := 0xd800 + (c.val - 0x10000) / 0x400) (by omega)
      (codeEscape (0xdc00 + c.val % 0x400) ++ w)
    have hhigh : IsHigh (0xd800 + (c.val - 0x10000) / 0x400) := by
      rw [IsHigh]
      omega
    have hspells := Spells.pair hn' hhigh hn hlow h
    have hval : 0x10000 + (0xd800 + (c.val - 0x10000) / 0x400 - 0xd800) * 0x400 +
        (0xdc00 + c.val % 0x400 - 0xdc00) = c.val := by omega
    rw [hval, Code.ofNat_val, ← he, ← he'] at hspells
    rwa [writeCode_of_le (by omega), List.append_assoc]

/-- A high and a low surrogate, both written, spell the code point that they stand for. -/
theorem Spells.writeCode_pair {d : Code} (h : Spells w s) (hhigh : IsHigh c.val)
    (hlow : IsLow d.val) : Spells (Json.writeCode c ++ (Json.writeCode d ++ w))
      (Code.ofNat (0x10000 + (c.val - 0xd800) * 0x400 + (d.val - 0xdc00)) :: s) := by
  have hhigh' := hhigh
  have hlow' := hlow
  rw [IsHigh] at hhigh'
  rw [IsLow] at hlow'
  rw [writeCode_of_surrogate (by omega), writeCode_of_surrogate (by omega)]
  obtain ⟨_, _, _, _, he, hn⟩ := codeEscape_append (n := d.val) (by omega) w
  obtain ⟨_, _, _, _, he', hn'⟩ := codeEscape_append (n := c.val) (by omega) (codeEscape d.val ++ w)
  rw [he', he]
  exact .pair hn' hhigh hn hlow h

theorem spells_flatMap_writeCode (t : Text) :
    Spells (t.flatMap writeCode ++ (['"'] : Text)) (joinSurrogates t) := by
  fun_induction joinSurrogates t with
  | case1 => exact .quote
  | case2 c =>
    have hlone : ¬ StartsLow ['"'] := not_startsLow_of_ne (by decide)
    rw [List.flatMap_cons, List.append_assoc]
    exact Spells.quote.writeCode fun _ => hlone
  | case3 c d t hpair ih =>
    rw [List.flatMap_cons, List.flatMap_cons, List.append_assoc, List.append_assoc]
    exact ih.writeCode_pair hpair.1 hpair.2
  | case4 c d t hpair ih =>
    rw [List.flatMap_cons, List.append_assoc]
    refine ih.writeCode fun hhigh => ?_
    rw [List.flatMap_cons, List.append_assoc]
    exact not_startsLow_writeCode (fun hlow => hpair ⟨hhigh, hlow⟩) _

end WebLint.Json
