import Mathlib.Data.List.Induction
import WebLint.Number.Decimal
import WebLint.Proofs.Text.Trim

namespace WebLint

/-- A text of ASCII digits. -/
def Text.IsDigits (t : Text) : Prop :=
  ∀ c ∈ t, c.isAsciiDigit = true

theorem Code.isAsciiDigit_iff {c : Code} : c.isAsciiDigit = true ↔ 0x30 ≤ c.val ∧ c.val ≤ 0x39 := by
  simp [Code.isAsciiDigit]

theorem isDigits_numeral (n : Nat) : Text.IsDigits (numeral n) := by
  intro c hc
  obtain ⟨d, hd, rfl⟩ := List.mem_map.mp hc
  have h : d.isDigit = true := Nat.isDigit_of_mem_toDigits (by omega) (by omega) hd
  rw [Code.isAsciiDigit_iff]
  exact Char.isDigit_iff_toNat.mp h

theorem numeral_ne_nil (n : Nat) : numeral n ≠ [] := by
  simp [numeral, Nat.toDigits_ne_nil]

theorem numeral_length_le_iff {n k : Nat} (hk : 0 < k) :
    (numeral n).length ≤ k ↔ n < powerOfTen k := by
  rw [numeral, List.length_map]
  exact Nat.length_toDigits_le_iff (by omega) hk

/-- An integer may be written if and only if it has few enough digits. -/
theorem exceedsDigitLimit_eq_false_iff {n : Int} :
    exceedsDigitLimit n = false ↔ (numeral n.natAbs).length ≤ digitLimit := by
  rw [numeral_length_le_iff (by decide), exceedsDigitLimit, decide_eq_false_iff_not, Nat.not_le]

theorem ofAsciiDigits_numeral (n : Nat) : ofAsciiDigits (numeral n) = n := by
  rw [ofAsciiDigits, ofDigits, numeral, List.map_map, List.foldl_map]
  exact Nat.ofDigitChars_ten_toDigits

theorem ofDigits_concat (ds : List Nat) (d : Nat) : ofDigits (ds ++ [d]) = 10 * ofDigits ds + d := by
  simp [ofDigits]

theorem ofDigits_lt {ds : List Nat} (h : ∀ d ∈ ds, d < 10) : ofDigits ds < powerOfTen ds.length := by
  induction ds using List.reverseRecOn with
  | nil => decide
  | append_singleton ds d ih =>
    have hd : d < 10 := h d (by simp)
    have hds : ofDigits ds < 10 ^ ds.length := ih fun d hd => h d (by simp [hd])
    have hlength : powerOfTen (ds ++ [d]).length = 10 ^ ds.length * 10 := by
      rw [List.length_append]
      exact Nat.pow_succ _ _
    rw [ofDigits_concat, hlength]
    omega

theorem ofAsciiDigits_lt {t : Text} (h : t.IsDigits) : ofAsciiDigits t < powerOfTen t.length := by
  have hds : ∀ d ∈ t.map fun c => c.val - 0x30, d < 10 := by
    intro d hd
    obtain ⟨c, hc, rfl⟩ := List.mem_map.mp hd
    have := Code.isAsciiDigit_iff.mp (h c hc)
    omega
  have hlt := ofDigits_lt hds
  rwa [List.length_map] at hlt

theorem powerOfTen_le {m n : Nat} (h : m ≤ n) : powerOfTen m ≤ powerOfTen n :=
  Nat.pow_le_pow_right (by decide) h

theorem decimalValue?_digit {c : Code} (h : c.isAsciiDigit = true) :
    c.decimalValue? = some (c.val - 0x30) := by
  rw [Code.decimalValue?, if_pos (Code.isAsciiDigit_iff.mp h)]

theorem ne_of_isAsciiDigit {c d : Code} (h : c.isAsciiDigit = true) (hd : d.isAsciiDigit = false) :
    c ≠ d := by
  rintro rfl
  rw [h] at hd
  cases hd

theorem looseDigits?_digits {t : Text} (h : t.IsDigits) (hne : t ≠ []) :
    looseDigits? t = some (t.map fun c => c.val - 0x30) := by
  induction t with
  | nil => exact absurd rfl hne
  | cons c r ih =>
    have hc := decimalValue?_digit (h c (by simp))
    cases r with
    | nil => simp [looseDigits?, hc]
    | cons u r =>
      have hu : u ≠ '_' := ne_of_isAsciiDigit (h u (by simp)) (by decide)
      have hr := ih (fun d hd => h d (by simp [hd])) (by simp)
      simp [looseDigits?, hc, hu, hr]

theorem isBlank_digit {c : Code} (h : c.isAsciiDigit = true) : c.isBlank = false := by
  have := Code.isAsciiDigit_iff.mp h
  simp only [Code.isBlank, blankRanges, Ranges.has]
  grind

/-- The code points of integers. -/
theorem mem_integerText {n : Int} {c : Code} (h : c ∈ integerText n) :
    c = '-' ∨ c.isAsciiDigit = true := by
  cases n with
  | ofNat n => exact .inr (isDigits_numeral n c h)
  | negSucc n =>
    rcases List.mem_cons.mp h with h | h
    · exact .inl h
    · exact .inr (isDigits_numeral (n + 1) c h)

theorem isBlank_of_mem_integerText {n : Int} {c : Code} (h : c ∈ integerText n) :
    c.isBlank = false := by
  rcases mem_integerText h with rfl | h
  · decide
  · exact isBlank_digit h

theorem integerText_ne_nil (n : Int) : integerText n ≠ [] := by
  cases n with
  | ofNat n => exact numeral_ne_nil n
  | negSucc n => exact List.cons_ne_nil _ _

theorem isBlank_integerText (n : Int) : (integerText n).isBlank = false := by
  obtain ⟨c, hc⟩ := List.exists_mem_of_ne_nil _ (integerText_ne_nil n)
  exact List.all_eq_false.mpr ⟨c, hc, by simp [isBlank_of_mem_integerText hc]⟩

theorem trim_integerText (n : Int) : (integerText n).trim = integerText n :=
  Text.trimWhile_of_forall_not fun _ hc => isBlank_of_mem_integerText hc

/-- Reading an integer undoes writing it. -/
theorem looseInteger?_integerText (n : Int) : looseInteger? (integerText n) = some n := by
  have hdigits : ∀ k : Nat, looseDigits? (numeral k) =
      some ((numeral k).map fun c => c.val - 0x30) :=
    fun k => looseDigits?_digits (isDigits_numeral k) (numeral_ne_nil k)
  have hvalue : ∀ k : Nat, ofDigits ((numeral k).map fun c => c.val - 0x30) = k :=
    ofAsciiDigits_numeral
  rw [looseInteger?, trim_integerText]
  cases n with
  | ofNat n =>
    simp only [integerText]
    cases hn : numeral n with
    | nil => exact absurd hn (numeral_ne_nil n)
    | cons c r =>
      have hc : c.isAsciiDigit = true := isDigits_numeral n c (by simp [hn])
      have hminus : c ≠ '-' := ne_of_isAsciiDigit hc (by decide)
      have hplus : c ≠ '+' := ne_of_isAsciiDigit hc (by decide)
      simp only [hminus, hplus, if_false]
      rw [← hn, hdigits, Option.map_some, hvalue]
      rfl
  | negSucc n =>
    simp only [integerText, if_true]
    rw [hdigits, Option.map_some, hvalue]
    rfl

end WebLint
