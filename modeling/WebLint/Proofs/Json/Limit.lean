import WebLint.Proofs.Json.Step

namespace WebLint

namespace Value

theorem anyExceeds_eq_false_iff {vs : List Value} :
    anyExceeds vs = false ↔ ∀ v ∈ vs, v.exceedsDigitLimit = false := by
  induction vs with
  | nil => simp [anyExceeds]
  | cons v vs ih => simp [anyExceeds, ih]

theorem anyFieldExceeds_eq_false_iff {fs : List Field} :
    anyFieldExceeds fs = false ↔ ∀ f ∈ fs, f.2.exceedsDigitLimit = false := by
  induction fs with
  | nil => simp [anyFieldExceeds]
  | cons f fs ih => simp [anyFieldExceeds, ih]

end Value

theorem mem_putField {fs : List Field} {key : Text} {v : Value} {f : Field}
    (h : f ∈ putField fs key v) : f ∈ fs ∨ f = (key, v) := by
  induction fs with
  | nil => exact .inr (List.mem_singleton.mp h)
  | cons g fs ih =>
    rw [putField] at h
    split at h
    · next hkey =>
      rcases List.mem_cons.mp h with rfl | h
      · exact .inr (by rw [hkey])
      · exact .inl (List.mem_cons_of_mem g h)
    · rcases List.mem_cons.mp h with rfl | h
      · exact .inl List.mem_cons_self
      · exact (ih h).imp_left (List.mem_cons_of_mem g)

namespace Json

theorem numberOf_exceeds {negative : Bool} {whole : Text} {fraction : Option Text}
    {exponent : Option Int} {v : Value} (hwhole : IsWhole whole)
    (h : numberOf negative whole fraction exponent = .ok v) : v.exceedsDigitLimit = false := by
  unfold numberOf at h
  split at h
  · split at h
    · cases h
    · next hlength =>
      have hlt : ofAsciiDigits whole < powerOfTen digitLimit :=
        (ofAsciiDigits_lt hwhole.digits).trans_le (powerOfTen_le (by omega))
      cases h
      rw [Value.exceedsDigitLimit, exceedsDigitLimit, decide_eq_false_iff_not]
      split <;> omega
  · cases h
    rfl

theorem scalar_exceeds {t rest : Text} {v : Value} (h : scalar t = .ok (v, rest)) :
    v.exceedsDigitLimit = false := by
  unfold scalar at h
  split at h
  · next hword =>
    cases h
    obtain ⟨w, hw, -⟩ := word?_eq_some hword
    simp only [wordValues, List.mem_cons, Prod.mk.injEq, List.not_mem_nil, or_false] at hw
    rcases hw with h | h | h | h | h | h <;> rw [h.2] <;> rfl
  · split at h
    · next hnumber =>
      rw [h] at hnumber
      obtain ⟨negative, ds, r, -, hwhole, -, hx⟩ := number?_eq_some_iff.mp hnumber
      obtain ⟨v, hv, he⟩ := map_eq_ok_iff.mp hx
      cases he
      exact numberOf_exceeds hwhole hv
    · cases h

theorem Inside.add_exceeds {i : Inside} {v : Value} (key : Text)
    (hi : i.value.exceedsDigitLimit = false) (hv : v.exceedsDigitLimit = false) :
    (i.add key v).value.exceedsDigitLimit = false := by
  cases i with
  | list done =>
    simp only [Inside.value, Value.exceedsDigitLimit, Value.anyExceeds_eq_false_iff,
      List.mem_reverse] at hi
    simp only [Inside.add, Inside.value, Value.exceedsDigitLimit, Value.anyExceeds_eq_false_iff,
      List.mem_reverse, List.mem_cons]
    rintro w (rfl | hw)
    · exact hv
    · exact hi w hw
  | object done =>
    simp only [Inside.value, Value.exceedsDigitLimit, Value.anyFieldExceeds_eq_false_iff] at hi
    simp only [Inside.add, Inside.value, Value.exceedsDigitLimit,
      Value.anyFieldExceeds_eq_false_iff]
    intro f hf
    rcases mem_putField hf with hf | rfl
    · exact hi f hf
    · exact hv

/-- What is read holds no integer of too many digits, if what a list or an object holds already does
not. -/
theorem reads_exceeds (fuel : Nat) :
    (∀ t v rest, value fuel t = .ok (v, rest) → v.exceedsDigitLimit = false) ∧
      ∀ (i : Inside) t v rest, NoSpace t → i.value.exceedsDigitLimit = false →
        i.read fuel t = .ok (v, rest) → v.exceedsDigitLimit = false := by
  induction fuel with
  | zero =>
    refine ⟨fun t v rest h => ?_, fun i t v rest _ _ h => ?_⟩
    · rw [value] at h
      cases h
    · obtain ⟨e, he⟩ := read_zero i t
      cases he.symm.trans h
  | succ fuel ih =>
    obtain ⟨ihvalue, ihread⟩ := ih
    refine ⟨fun t v rest h => ?_, fun i t v rest ht hi h => ?_⟩
    · have hreads := value_reads fuel t
      generalize value (fuel + 1) t = x at hreads h
      cases hreads with
      | missing | broken => cases h
      | text =>
        cases h
        rfl
      | @opened d i t hopens =>
        have hi : i.value.exceedsDigitLimit = false := by cases hopens <;> rfl
        have hreads := opened_reads fuel i t
        generalize opened fuel i t = x at hreads h
        cases hreads with
        | empty =>
          cases h
          exact hi
        | filled _ hw => exact ihread i _ v rest hw hi h
      | scalar => exact scalar_exceeds h
    · have hreads := read_reads fuel i ht
      generalize i.read (fuel + 1) t = x at hreads h
      cases hreads with
      | broken => cases h
      | @item hd key w =>
        have hreads := item_reads fuel i key w
        generalize item fuel i key w = x at hreads h
        cases hreads with
        | failed | broken => cases h
        | last hv =>
          cases h
          exact Inside.add_exceeds key hi (ihvalue _ _ _ hv)
        | more hv _ _ hw' =>
          exact ihread _ _ v rest hw' (Inside.add_exceeds key hi (ihvalue _ _ _ hv)) h

/-- A document that is read holds no integer of too many digits. -/
theorem exceedsDigitLimit_of_read {t : Text} {v : Value} (h : Json.read t = .ok v) :
    v.exceedsDigitLimit = false := by
  unfold Json.read at h
  split at h
  · cases h
  · split at h
    · cases h
    · split at h
      · cases h
      · next hvalue =>
        split at h
        · cases h
          exact (reads_exceeds _).1 _ _ _ hvalue
        · cases h

end Json

end WebLint
