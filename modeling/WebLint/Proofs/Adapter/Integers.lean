import WebLint.Proofs.Adapter.Course
import WebLint.Proofs.Document.Elements
import WebLint.Proofs.Numeral

namespace WebLint

/-- Decimal digits with their values, at least one and no more than may be read. -/
structure IsNumeral (t : Text) (ds : List Nat) : Prop where
  values : t.map Code.decimalValue? = ds.map some
  ne_nil : ds ≠ []
  short : ds.length ≤ digitLimit

/-- A numeral with the integer that it denotes. -/
inductive Denotes : Text → Int → Prop
  | digits {t : Text} {ds : List Nat} (h : IsNumeral t ds) : Denotes t (ofDigits ds)
  | minus {t : Text} {ds : List Nat} (h : IsNumeral t ds) :
    Denotes ('-' :: t) (-(ofDigits ds : Int))

abbrev lowLine : Code :=
  '_'

section

variable {t : Text} {ds : List Nat}

theorem length_of_values (h : t.map Code.decimalValue? = ds.map some) : t.length = ds.length := by
  have hlength := congrArg List.length h
  rwa [List.length_map, List.length_map] at hlength

theorem isDecimal_of_values (h : t.map Code.decimalValue? = ds.map some) :
    ∀ c ∈ t, c.isDecimal = true := by
  intro c hc
  have hmem : c.decimalValue? ∈ ds.map some := by
    rw [← h]
    exact List.mem_map_of_mem hc
  obtain ⟨d, -, hd⟩ := List.mem_map.mp hmem
  rw [Code.isDecimal, ← hd]
  rfl

/-- Without low lines, only decimal digits are read as such. -/
theorem looseDigits?_eq_some_iff (h : lowLine ∉ t) :
    looseDigits? t = some ds ↔ t.map Code.decimalValue? = ds.map some ∧ ds ≠ [] := by
  fun_induction looseDigits? t generalizing ds with
  | case1 => cases ds <;> simp
  | case2 c r hc => cases ds <;> simp [hc]
  | case3 c d hc => cases ds <;> simp [hc]
  | case4 => simp at h
  | case5 c d u r hc _ ih =>
    have hrest : lowLine ∉ u :: r := fun hmem => h (List.mem_cons_of_mem c hmem)
    rw [Option.map_eq_some_iff]
    constructor
    · rintro ⟨ds', hds', rfl⟩
      rw [List.map_cons, hc, ((ih hrest).mp hds').1, List.map_cons]
      exact ⟨rfl, List.cons_ne_nil d ds'⟩
    · rintro ⟨hvalues, hne⟩
      obtain ⟨d', ds', rfl⟩ := List.exists_cons_of_ne_nil hne
      simp only [List.map_cons, hc, List.cons.injEq, Option.some.injEq] at hvalues
      obtain ⟨rfl, hvalues⟩ := hvalues
      refine ⟨ds', (ih hrest).mpr ⟨hvalues, ?_⟩, rfl⟩
      rintro rfl
      cases hvalues

theorem isNumeral_iff (h : lowLine ∉ t) :
    IsNumeral t ds ↔ (t.takeWhile Code.isDecimal).length ≤ digitLimit ∧
      looseDigits? t = some ds := by
  rw [looseDigits?_eq_some_iff h]
  have hall : t.map Code.decimalValue? = ds.map some →
      (t.takeWhile Code.isDecimal).length = ds.length := by
    intro hvalues
    rw [List.takeWhile_eq_self_iff.mpr (isDecimal_of_values hvalues), length_of_values hvalues]
  constructor
  · intro hds
    rw [hall hds.values]
    exact ⟨hds.short, hds.values, hds.ne_nil⟩
  · rintro ⟨hshort, hvalues, hne⟩
    rw [hall hvalues] at hshort
    exact ⟨hvalues, hne, hshort⟩

end

namespace FieldMapping

variable {t : Text} {n : Int}

abbrev minus : Code :=
  looksNumeric.minus

/-- The integer of decimal digits that stand in a text behind a minus sign or without one. -/
def signedInteger (t : Text) (negative : Bool) (digits : Text) : Except Fault Int :=
  let count := (digits.takeWhile Code.isDecimal).length
  if digitLimit < count then .error (.numeralTooLong count)
  else match looseDigits? digits with
    | some ds => .ok (if negative then -(ofDigits ds : Int) else ofDigits ds)
    | none => .error (.numeralUnreadable t)

theorem numeralInteger_minus (r : Text) :
    numeralInteger (minus :: r) = signedInteger (minus :: r) true r :=
  rfl

theorem numeralInteger_of_head?_ne (h : t.head? ≠ some minus) :
    numeralInteger t = signedInteger t false t := by
  cases t with
  | nil => rfl
  | cons c r =>
    have hc : c ≠ '-' := by
      rintro rfl
      exact h rfl
    rw [numeralInteger]
    simp only [hc, if_false]
    rfl

theorem signedInteger_eq_ok_iff {negative : Bool} {digits : Text} (h : lowLine ∉ digits) :
    signedInteger t negative digits = .ok n ↔
      ∃ ds, IsNumeral digits ds ∧ (if negative then -(ofDigits ds : Int) else ofDigits ds) = n := by
  simp only [isNumeral_iff h]
  unfold signedInteger
  by_cases hlong : digitLimit < (digits.takeWhile Code.isDecimal).length
  · simp only [hlong, if_true, reduceCtorEq, false_iff]
    rintro ⟨ds, ⟨hshort, -⟩, -⟩
    omega
  · have hshort : (digits.takeWhile Code.isDecimal).length ≤ digitLimit := Nat.le_of_not_lt hlong
    cases hds : looseDigits? digits <;> simp [hlong, hshort]

theorem head?_ne_minus {ds : List Nat} (h : IsNumeral t ds) : t.head? ≠ some minus := by
  intro hhead
  have hdecimal := isDecimal_of_values h.values minus (List.mem_of_mem_head? hhead)
  revert hdecimal
  decide

theorem numeralInteger_eq_ok_iff (h : lowLine ∉ t) : numeralInteger t = .ok n ↔ Denotes t n := by
  by_cases hhead : t.head? = some minus
  · obtain ⟨r, rfl⟩ : ∃ r, t = minus :: r := ⟨t.tail, List.eq_cons_of_mem_head? hhead⟩
    have hr : lowLine ∉ r := fun hmem => h (List.mem_cons_of_mem _ hmem)
    rw [numeralInteger_minus, signedInteger_eq_ok_iff hr]
    constructor
    · rintro ⟨ds, hds, rfl⟩
      exact .minus hds
    · intro hn
      cases hn with
      | digits hds => exact absurd rfl (head?_ne_minus hds)
      | minus hds => exact ⟨_, hds, rfl⟩
  · rw [numeralInteger_of_head?_ne hhead, signedInteger_eq_ok_iff h]
    constructor
    · rintro ⟨ds, hds, rfl⟩
      exact .digits hds
    · intro hn
      cases hn with
      | digits hds => exact ⟨_, hds, rfl⟩
      | minus => exact absurd rfl hhead

/-! ### Texts that look like numerals -/

theorem lowLine_not_mem_of_looksNumeric (h : looksNumeric t = true) : lowLine ∉ t := by
  have hsplit : t = t.takeWhile (· = minus) ++ t.dropWhile (· = minus) :=
    List.takeWhile_append_dropWhile.symm
  rw [looksNumeric, Bool.and_eq_true, List.all_eq_true] at h
  intro hmem
  rw [hsplit, List.mem_append] at hmem
  obtain hmem | hmem := hmem
  · have hminus := List.mem_takeWhile_imp hmem
    revert hminus
    decide
  · have hdigit := h.2 lowLine hmem
    revert hdigit
    decide

theorem looksNumeric_of_dropWhile {ds : List Nat} (h : IsNumeral (t.dropWhile (· = minus)) ds) :
    looksNumeric t = true := by
  have hne : t.dropWhile (· = minus) ≠ [] := by
    intro hnil
    have hlength := length_of_values h.values
    rw [hnil] at hlength
    exact h.ne_nil (List.length_eq_zero_iff.mp hlength.symm)
  rw [looksNumeric, Bool.and_eq_true, List.all_eq_true]
  refine ⟨by simpa using hne, fun c hc => ?_⟩
  rw [Code.isDigit, isDecimal_of_values h.values c hc, Bool.true_or]

theorem dropWhile_minus_of_isNumeral {ds : List Nat} (h : IsNumeral t ds) :
    t.dropWhile (· = minus) = t := by
  cases t with
  | nil => rfl
  | cons c r =>
    apply List.dropWhile_cons_of_neg
    intro hc
    exact head?_ne_minus h (congrArg some (of_decide_eq_true hc))

theorem looksNumeric_of_denotes (h : Denotes t n) : looksNumeric t = true := by
  cases h with
  | digits hds =>
    apply looksNumeric_of_dropWhile
    rw [dropWhile_minus_of_isNumeral hds]
    exact hds
  | @minus r _ hds =>
    have hdrop : (minus :: r).dropWhile (· = minus) = r := by
      rw [List.dropWhile_cons_of_pos (by simp), dropWhile_minus_of_isNumeral hds]
    exact looksNumeric_of_dropWhile (hdrop ▸ hds)

theorem numeral_iff : (looksNumeric t = true ∧ numeralInteger t = .ok n) ↔ Denotes t n := by
  constructor
  · rintro ⟨hlooks, h⟩
    exact (numeralInteger_eq_ok_iff (lowLine_not_mem_of_looksNumeric hlooks)).mp h
  · intro h
    have hlooks := looksNumeric_of_denotes h
    exact ⟨hlooks, (numeralInteger_eq_ok_iff (lowLine_not_mem_of_looksNumeric hlooks)).mpr h⟩

end FieldMapping

/-- The values from which an integer part is read, and what is read. -/
inductive ReadsInteger : Option Value → Option Int → Prop
  | missing : ReadsInteger none none
  | null : ReadsInteger (some .null) none
  | integer (n : Int) : ReadsInteger (some (.int n)) (some n)
  | numeral {t : Text} {n : Int} (h : Denotes t.trim n) : ReadsInteger (some (.text t)) (some n)

namespace FieldMapping

theorem integer_eq_ok_iff {part : Text} {v : Option Value} {o : Option Int} :
    integer part (v.getD .null) = .ok o ↔ ReadsInteger v o := by
  constructor
  · intro h
    cases v with
    | none =>
      cases h
      exact .missing
    | some v =>
      cases v with
      | null =>
        cases h
        exact .null
      | int n =>
        cases h
        exact .integer n
      | text t =>
        simp only [Option.getD_some, integer] at h
        split at h
        · next hlooks =>
          obtain ⟨n, hn, rfl⟩ := map_eq_ok_iff.mp h
          exact .numeral (numeral_iff.mp ⟨hlooks, hn⟩)
        · cases h
      | bool | float | moment | list | object => cases h
  · intro h
    cases h with
    | missing | null | integer => rfl
    | numeral h =>
      obtain ⟨hlooks, hn⟩ := numeral_iff.mpr h
      simp only [Option.getD_some, integer, hlooks, hn, if_true]
      rfl

end FieldMapping

theorem isNumeral_numeral {k : Nat} (h : (numeral k).length ≤ digitLimit) :
    IsNumeral (numeral k) ((numeral k).map fun c => c.val - 0x30) where
  values := by
    rw [List.map_map]
    exact List.map_congr_left fun c hc => decimalValue?_digit (isDigits_numeral k c hc)
  ne_nil := by
    rw [ne_eq, List.map_eq_nil_iff]
    exact numeral_ne_nil k
  short := by rwa [List.length_map]

theorem denotes_integerText {n : Int} (h : IsShort n) : Denotes (integerText n) n := by
  have hvalue : ∀ k : Nat, ofDigits ((numeral k).map fun c => c.val - 0x30) = k :=
    ofAsciiDigits_numeral
  cases n with
  | ofNat k =>
    have hk := Denotes.digits (isNumeral_numeral h)
    rwa [hvalue] at hk
  | negSucc k =>
    have hk := Denotes.minus (isNumeral_numeral h)
    rwa [hvalue] at hk

end WebLint
