import WebLint.Proofs.Json.Step

namespace WebLint.Json

variable {α : Type}

/-- A complaint points at an end of the text. -/
def Failure.PointsInto (t : Text) : Failure → Prop
  | .malformed _ rest => rest <:+ t
  | .longInteger _ => True

/-- What is left of a text, or what a complaint points at, is an end of it. -/
def Within (t : Text) : Read α → Prop
  | .ok (_, rest) => rest <:+ t
  | .error e => e.PointsInto t

theorem Within.mono {t t' : Text} {x : Read α} (h : Within t x) (ht : t <:+ t') : Within t' x := by
  rcases x with (⟨why, rest⟩ | n) | ⟨a, rest⟩
  · exact h.trans ht
  · exact trivial
  · exact h.trans ht

theorem suffix_of_cons {c : Code} {t start : Text} (h : c :: t <:+ start) : t <:+ start :=
  (List.suffix_cons c t).trans h

theorem suffix_of_escaped {a b c d : Code} {t start : Text} (h : escaped a b c d t <:+ start) :
    t <:+ start :=
  suffix_of_cons (suffix_of_cons (suffix_of_cons (suffix_of_cons (suffix_of_cons
    (suffix_of_cons h)))))

/-! ### Strings -/

theorem pointsInto_of_lowSurrogate? {t : Text} {e : Failure} (h : lowSurrogate? t = .error e) :
    e.PointsInto t := by
  unfold lowSurrogate? at h
  split at h
  · split at h
    · split at h
      · cases h
        exact List.suffix_cons _ _
      · cases h
    · cases h
  · cases h

theorem Within.andThen {t : Text} {x : Read Text} (h : Within t x) (c : Code) :
    Within t (andThen c x) := by
  rcases x with (⟨why, rest⟩ | n) | ⟨a, rest⟩ <;> exact h

theorem within_stringBody {start t : Text} (ht : t <:+ start) :
    Within start (stringBody start t) := by
  fun_induction stringBody start t with
  | case1 => exact List.suffix_refl start
  | case3 => exact List.suffix_refl start
  | case2 => exact suffix_of_cons ht
  | case4 => exact suffix_of_cons ht
  | case10 => exact suffix_of_cons ht
  | case12 => exact ht
  | case13 => exact ht
  | case5 h₁ h₂ h₃ h₄ n hn hhigh s u a b c d q r why hlow =>
    exact Within.mono (x := (.error why : Read Text)) (pointsInto_of_lowSurrogate? hlow)
      (suffix_of_escaped ht)
  | case6 h₁ h₂ h₃ h₄ n hn hhigh s u a b c d q r m rest hlow hescape ih =>
    have hbehind : s :: u :: a :: b :: c :: d :: q :: r <:+ start := suffix_of_escaped ht
    exact (ih ((List.suffix_append [s, u, a, b, c, d] (q :: r)).trans hbehind)).andThen _
  | case7 h₁ h₂ h₃ h₄ n hn hhigh s u a b c d q r rest hlow hescape ih =>
    exact (ih (suffix_of_escaped ht)).andThen _
  | case8 h₁ h₂ h₃ h₄ n hn hhigh s r hshort hescape ih =>
    exact (ih (suffix_of_escaped ht)).andThen _
  | case9 h₁ h₂ h₃ h₄ z r n hn hhigh hescape ih =>
    exact (ih (suffix_of_escaped ht)).andThen _
  | case11 e r hu d hd hescape ih => exact (ih (suffix_of_cons (suffix_of_cons ht))).andThen d
  | case14 c r hquote hescape hc ih => exact (ih (suffix_of_cons ht)).andThen c

/-! ### Values -/

theorem skipSpace_suffix (t : Text) : skipSpace t <:+ t :=
  List.dropWhile_suffix isSpace

theorem within_scalar (t : Text) : Within t (scalar t) := by
  cases h : scalar t with
  | ok p =>
    obtain ⟨v, rest⟩ := p
    obtain ⟨c, rfl, -⟩ := scalar_append h
    exact List.suffix_append c rest
  | error e =>
    rcases scalar_eq_error h with rfl | ⟨n, rfl, -⟩
    · exact List.suffix_refl t
    · exact trivial

variable {fuel : Nat}

/-- Reading a value, the rest of a list or that of an object stays within its text. -/
structure StaysWithin (fuel : Nat) : Prop where
  value (t : Text) : Within t (value fuel t)
  read (i : Inside) (t : Text) : Within t (i.read fuel t)

theorem StaysWithin.opened (h : StaysWithin fuel) (i : Inside) (t : Text) :
    Within t (opened fuel i t) := by
  have hskip := skipSpace_suffix t
  unfold Json.opened
  split
  · exact (h.read i []).mono (List.nil_suffix)
  · next c r hr =>
    rw [hr] at hskip
    split
    · exact suffix_of_cons hskip
    · exact (h.read i _).mono hskip

theorem StaysWithin.item (h : StaysWithin fuel) (i : Inside) (key t : Text) :
    Within t (item fuel i key t) := by
  have hvalue := h.value t
  unfold Json.item
  split
  · next e he =>
    rw [he] at hvalue
    exact hvalue
  · next v rest hv =>
    rw [hv] at hvalue
    have hskip := (skipSpace_suffix rest).trans hvalue
    split
    · exact List.nil_suffix
    · next c r hr =>
      rw [hr] at hskip
      split
      · exact suffix_of_cons hskip
      · split
        · exact (h.read _ _).mono ((skipSpace_suffix r).trans (suffix_of_cons hskip))
        · exact hskip

theorem StaysWithin.value_succ (h : StaysWithin fuel) (t : Text) :
    Within t (Json.value (fuel + 1) t) := by
  cases t with
  | nil =>
    rw [Json.value]
    exact List.suffix_refl []
  | cons c t =>
    by_cases hquote : c = '"'
    · have hbody := within_stringBody (List.suffix_cons c t)
      rw [Json.value, if_pos hquote]
      split
      · next hs =>
        rw [hs] at hbody
        exact hbody
      · next he =>
        rw [he] at hbody
        exact hbody
    · by_cases hopens : ∃ i, Opens c i
      · obtain ⟨i, hi⟩ := hopens
        rw [value_opened hi]
        exact (h.opened i t).mono (List.suffix_cons c t)
      · rw [value_scalar hquote (not_exists.mp hopens)]
        exact within_scalar (c :: t)

theorem StaysWithin.members_succ (h : StaysWithin fuel) (done : List Field) (t : Text) :
    Within t (members (fuel + 1) done t) := by
  cases t with
  | nil =>
    rw [members]
    exact List.suffix_refl []
  | cons q t =>
    rw [members]
    split
    · have hbody := within_stringBody (List.suffix_cons q t)
      split
      · next he =>
        rw [he] at hbody
        exact hbody
      · next key rest hs =>
        rw [hs] at hbody
        have hskip := (skipSpace_suffix rest).trans hbody
        split
        · exact List.nil_suffix
        · next c r hr =>
          rw [hr] at hskip
          split
          · have hr' := (skipSpace_suffix r).trans (suffix_of_cons hskip)
            exact (h.item (.object done) key (skipSpace r)).mono hr'
          · exact hskip
    · exact List.suffix_refl _

theorem staysWithin (fuel : Nat) : StaysWithin fuel := by
  induction fuel with
  | zero =>
    refine ⟨fun t => ?_, fun i t => ?_⟩
    · rw [value]
      exact List.suffix_refl t
    · cases i with
      | list done =>
        rw [Inside.read, elements]
        exact List.suffix_refl t
      | object done =>
        rw [Inside.read, members]
        exact List.suffix_refl t
  | succ fuel ih =>
    refine ⟨ih.value_succ, fun i t => ?_⟩
    cases i with
    | list done =>
      rw [Inside.read, elements.eq_def]
      exact ih.item (.list done) [] t
    | object done => exact ih.members_succ done t

theorem rest_suffix_of_read {t rest : Text} {why : Complaint}
    (h : Json.read t = .error (.malformed why rest)) : rest <:+ t := by
  cases t with
  | nil =>
    cases h
    exact List.suffix_refl []
  | cons c t =>
    rw [Json.read] at h
    split at h
    · cases h
      exact List.suffix_refl _
    · have hvalue := (staysWithin (2 * (c :: t).length + 2)).value (skipSpace (c :: t))
      have hskip := skipSpace_suffix (c :: t)
      split at h
      · next he =>
        cases h
        rw [he] at hvalue
        exact hvalue.trans hskip
      · next v rest' hv =>
        rw [hv] at hvalue
        have hrest := (skipSpace_suffix rest').trans (hvalue.trans hskip)
        split at h
        · cases h
        · next hr =>
          cases h
          rwa [hr] at hrest

/-! ### Places -/

/-- A place that is counted from another place, as it is counted from the start of the text. -/
def Place.shift (p q : Place) : Place where
  line := p.line + (q.line - 1)
  column := if q.line = 1 then p.column + (q.column - 1) else q.column
  offset := p.offset + q.offset

theorem Place.line_behind_eq_one_iff {b : Text} : (behind b).line = 1 ↔ Code.ofNat 0xa ∉ b := by
  rw [behind, Nat.add_eq_right, List.count_eq_zero]

theorem Place.column_behind_of_not_mem {b : Text} (h : Code.ofNat 0xa ∉ b) :
    (behind b).column = b.length + 1 := by
  have hall : ∀ c ∈ b.reverse, decide (c ≠ Code.ofNat 0xa) = true := by
    intro c hc
    rw [decide_eq_true_iff]
    rintro rfl
    exact h (List.mem_reverse.mp hc)
  rw [behind, List.takeWhile_eq_self_iff.mpr hall, List.length_reverse]

/-- Places behind texts that stand one behind the other. -/
theorem Place.behind_append (a b : Text) : behind (a ++ b) = (behind a).shift (behind b) := by
  have hline : (behind (a ++ b)).line = (behind a).line + ((behind b).line - 1) := by
    simp only [behind, List.count_append]
    omega
  have hcolumn : (behind (a ++ b)).column =
      if (behind b).line = 1 then (behind a).column + ((behind b).column - 1)
      else (behind b).column := by
    split
    · next hb =>
      rw [line_behind_eq_one_iff] at hb
      have hall : ∀ c ∈ b.reverse, decide (c ≠ Code.ofNat 0xa) = true := fun c hc =>
        decide_eq_true fun h => hb (h ▸ List.mem_reverse.mp hc)
      rw [column_behind_of_not_mem hb, behind, behind, List.reverse_append,
        List.takeWhile_append_of_pos hall, List.length_append, List.length_reverse]
      dsimp only
      omega
    · next hb =>
      rw [line_behind_eq_one_iff, not_not] at hb
      rw [behind, behind, List.reverse_append, List.takeWhile_append, if_neg]
      intro hlength
      have hself := (List.takeWhile_prefix _).eq_of_length hlength
      exact of_decide_eq_true (List.takeWhile_eq_self_iff.mp hself _ (List.mem_reverse.mpr hb)) rfl
  have hoffset : (behind (a ++ b)).offset = (behind a).offset + (behind b).offset :=
    List.length_append
  rw [shift, ← hline, ← hcolumn, ← hoffset]

theorem Place.of_append (before rest : Text) : Place.of (before ++ rest) rest = behind before := by
  rw [Place.of, List.length_append, Nat.add_sub_cancel, List.take_left]

/-! ### Places behind what stands in front -/

theorem Place.line_pos (b : Text) : 1 ≤ (behind b).line :=
  Nat.le_add_left 1 _

theorem Place.column_pos (b : Text) : 1 ≤ (behind b).column :=
  Nat.le_add_left 1 _

theorem Place.column_behind_eq_one_iff {b : Text} :
    (behind b).column = 1 ↔ ∀ c ∈ b.getLast?, c = Code.ofNat 0xa := by
  rcases List.eq_nil_or_concat b with rfl | ⟨a, c, rfl⟩
  · simp [behind]
  · by_cases hc : c = Code.ofNat 0xa <;> simp [behind, hc]

variable {a b : Text}

theorem Place.offset_eq_iff :
    (behind b).offset = (behind (a ++ b)).offset ↔ a = [] := by
  simp [behind, List.length_append]

theorem Place.line_eq_iff :
    (behind b).line = (behind (a ++ b)).line ↔ Code.ofNat 0xa ∉ a := by
  have hb := line_pos b
  have ha := line_pos a
  rw [behind_append, shift, ← line_behind_eq_one_iff]
  dsimp only
  omega

/-- Only in the first line does the column depend on what stands in front, and not if that ends
with a line of its own. -/
theorem Place.column_eq_iff : (behind b).column = (behind (a ++ b)).column ↔
    Code.ofNat 0xa ∈ b ∨ ∀ c ∈ a.getLast?, c = Code.ofNat 0xa := by
  have hb := column_pos b
  have ha := column_pos a
  have hline : Code.ofNat 0xa ∈ b ↔ (behind b).line ≠ 1 := by
    rw [ne_eq, line_behind_eq_one_iff, not_not]
  rw [behind_append, shift, ← column_behind_eq_one_iff, hline]
  dsimp only
  split <;> omega

/-! ### What is written of a place -/

theorem noDigit_append {c : Code} {s : Text} (hc : c.isAsciiDigit = false) (t : Text) :
    NoDigit ((c :: s) ++ t) := by
  intro d hd
  cases hd
  exact hc

theorem numeral_append_inj {m n : Nat} {r s : Text} (hr : NoDigit r) (hs : NoDigit s)
    (h : numeral m ++ r = numeral n ++ s) : m = n ∧ r = s := by
  have hdigits := congrArg (List.takeWhile Code.isAsciiDigit) h
  rw [takeWhile_digits (isDigits_numeral m) hr, takeWhile_digits (isDigits_numeral n) hs] at hdigits
  have hmn := congrArg ofAsciiDigits hdigits
  rw [ofAsciiDigits_numeral, ofAsciiDigits_numeral] at hmn
  rw [hdigits] at h
  exact ⟨hmn, List.append_cancel_left h⟩

theorem Place.message_injective {p q : Place} (h : p.message = q.message) : p = q := by
  simp only [message, List.append_assoc, List.append_cancel_left_eq] at h
  obtain ⟨hline, h⟩ := numeral_append_inj (noDigit_append rfl _) (noDigit_append rfl _) h
  obtain ⟨hcolumn, h⟩ := numeral_append_inj (noDigit_append rfl _) (noDigit_append rfl _)
    (List.append_cancel_left h)
  have hclose : NoDigit (Text.ofString ")") := by
    intro d hd
    cases hd
    rfl
  obtain ⟨hoffset, -⟩ := numeral_append_inj hclose hclose (List.append_cancel_left h)
  cases p
  cases q
  exact mk.injEq .. ▸ ⟨hline, hcolumn, hoffset⟩

end WebLint.Json
