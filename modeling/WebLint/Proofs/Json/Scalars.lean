import WebLint.Json.Reader
import WebLint.Proofs.Numeral
import WebLint.Proofs.Traversal

namespace WebLint.Json

def NoDigit (t : Text) : Prop :=
  ∀ c ∈ t.head?, c.isAsciiDigit = false

def Ends (t : Text) : Prop :=
  ∀ c ∈ t.head?, c.isAsciiDigit = false ∧ c ≠ '.' ∧ c ≠ 'e' ∧ c ≠ 'E'

/-- The digits of an integer: a zero stands alone. -/
structure IsWhole (ds : Text) : Prop where
  digits : ds.IsDigits
  ne_nil : ds ≠ []
  zero : ds.head? = some (Code.ofChar '0') → ds = (['0'] : Text)

def sign (negative : Bool) : Text :=
  if negative then ['-'] else []

/-- The places of a fraction, if one stands at the start of a text, and what follows. -/
def fractionOf (t : Text) : Option Text × Text :=
  ((fraction? t).map (·.1), ((fraction? t).map (·.2)).getD t)

/-- An exponent, if one stands at the start of a text, and what follows. -/
def exponentOf (t : Text) : Option Int × Text :=
  ((exponent? t).map (·.1), ((exponent? t).map (·.2)).getD t)

/-- The number with these digits, an integer if it has neither fraction nor exponent. -/
def numberOf (negative : Bool) (whole : Text) (fraction : Option Text) (exponent : Option Int) :
    Except Failure Value :=
  if fraction.isNone && exponent.isNone then
    if digitLimit < whole.length then .error (.longInteger whole.length)
    else
      let n : Int := ofAsciiDigits whole
      .ok (.int (if negative then -n else n))
  else
    let places := fraction.getD []
    .ok (.float (Binary64.ofDecimal negative
      ((whole ++ places).map fun c => c.val - 0x30)
      (exponent.getD 0 - (places.length : Int))))

def numberBehind (negative : Bool) (whole rest : Text) : Read Value :=
  let exponent := exponentOf (fractionOf rest).2
  (numberOf negative whole (fractionOf rest).1 exponent.1).map (·, exponent.2)

/-- An integer of too many digits, with neither fraction nor exponent, stands at the start of a
text. -/
inductive StartsLong : Text → Nat → Prop
  | intro (negative : Bool) {ds rest : Text} (hwhole : IsWhole ds) (hlong : digitLimit < ds.length)
    (hdigit : NoDigit rest) (hfraction : fraction? rest = none)
    (hexponent : exponent? rest = none) : StartsLong (sign negative ++ (ds ++ rest)) ds.length

/-! ### Digits -/

theorem Ends.noDigit {t : Text} (h : Ends t) : NoDigit t :=
  fun c hc => (h c hc).1

theorem noDigit_dropWhile (t : Text) : NoDigit (t.dropWhile Code.isAsciiDigit) := by
  intro c hc
  have := List.head?_dropWhile_not Code.isAsciiDigit t
  rw [Option.mem_def.mp hc] at this
  simpa using this

theorem isDigits_takeWhile (t : Text) : Text.IsDigits (t.takeWhile Code.isAsciiDigit) :=
  fun _ hc => List.mem_takeWhile_imp hc

variable {ds r : Text}

theorem takeWhile_digits (hds : ds.IsDigits) (hr : NoDigit r) :
    (ds ++ r).takeWhile Code.isAsciiDigit = ds := by
  rw [List.takeWhile_append_of_pos hds]
  cases r with
  | nil => simp
  | cons c r => simp [hr c rfl]

theorem dropWhile_digits (hds : ds.IsDigits) (hr : NoDigit r) :
    (ds ++ r).dropWhile Code.isAsciiDigit = r := by
  rw [List.dropWhile_append_of_pos hds]
  cases r with
  | nil => rfl
  | cons c r => simp [hr c rfl]

/-! ### Fractions and exponents -/

theorem fraction?_eq_some_iff {t ps : Text} :
    fraction? t = some (ps, r) ↔
      t = ('.' :: (ps ++ r) : Text) ∧ ps.IsDigits ∧ ps ≠ [] ∧ NoDigit r := by
  constructor
  · intro h
    unfold fraction? at h
    split at h
    · next d r' =>
      split at h
      · next hd =>
        obtain ⟨rfl, hd⟩ := hd
        cases h
        refine ⟨?_, ?_, List.cons_ne_nil _ _, noDigit_dropWhile _⟩
        · rw [List.cons_append, List.takeWhile_append_dropWhile]
        · exact List.forall_mem_cons.mpr ⟨hd, isDigits_takeWhile r'⟩
      · cases h
    · cases h
  · rintro ⟨rfl, hps, hne, hr⟩
    obtain ⟨d, ps, rfl⟩ := List.exists_cons_of_ne_nil hne
    obtain ⟨hd, hps⟩ := List.forall_mem_cons.mp hps
    simp only [List.cons_append, fraction?, hd, and_self, if_true, takeWhile_digits hps hr,
      dropWhile_digits hps hr]

theorem Ends.exponent?_eq_none {t : Text} (h : Ends t) : exponent? t = none := by
  unfold exponent?
  split
  · rfl
  · rw [if_neg]
    rintro (he | he)
    · exact (h _ rfl).2.2.1 he
    · exact (h _ rfl).2.2.2 he

def exponentSign (t : Text) : Bool × Text :=
  match t with
  | s :: r => if s = '-' then (true, r) else if s = '+' then (false, r) else (false, t)
  | [] => (false, [])

theorem exponentSign_append (t : Text) :
    ∃ s, t = s ++ (exponentSign t).2 ∧ ∀ u : Text, (∃ d ∈ u.head?, d.isAsciiDigit = true) →
      exponentSign (s ++ u) = ((exponentSign t).1, u) := by
  have hnone : ∀ u : Text, (∃ d ∈ u.head?, d.isAsciiDigit = true) →
      exponentSign u = (false, u) := by
    rintro u ⟨d, hd, hdigit⟩
    obtain ⟨r, rfl⟩ := List.head?_eq_some_iff.mp (Option.mem_def.mp hd)
    rw [exponentSign, if_neg (ne_of_isAsciiDigit hdigit (by decide)),
      if_neg (ne_of_isAsciiDigit hdigit (by decide))]
  unfold exponentSign
  split
  · next s r =>
    split
    · next hs => exact ⟨[s], rfl, fun u _ => if_pos hs⟩
    · next hminus =>
      split
      · next hs => exact ⟨[s], rfl, fun u _ => (if_neg hminus).trans (if_pos hs)⟩
      · exact ⟨[], rfl, hnone⟩
  · exact ⟨[], rfl, hnone⟩

def exponentBehind (minus : Bool) (t : Text) : Option (Int × Text) :=
  let digits := t.takeWhile Code.isAsciiDigit
  if digits.isEmpty then none
  else
    let n : Int := ofAsciiDigits digits
    some (if minus then -n else n, t.dropWhile Code.isAsciiDigit)

theorem exponentBehind_eq_some_iff {minus : Bool} {t : Text} {n : Int} :
    exponentBehind minus t = some (n, r) ↔ ∃ ds : Text, t = ds ++ r ∧ ds.IsDigits ∧ ds ≠ [] ∧
      NoDigit r ∧ n = if minus then -(ofAsciiDigits ds : Int) else ofAsciiDigits ds := by
  constructor
  · intro h
    unfold exponentBehind at h
    dsimp only at h
    split at h
    · cases h
    · next hne =>
      cases h
      exact ⟨t.takeWhile Code.isAsciiDigit, List.takeWhile_append_dropWhile.symm,
        isDigits_takeWhile t, fun h => hne (List.isEmpty_iff.mpr h), noDigit_dropWhile t, rfl⟩
  · rintro ⟨ds, rfl, hds, hne, hr, rfl⟩
    simp only [exponentBehind, takeWhile_digits hds hr, dropWhile_digits hds hr,
      List.isEmpty_iff, hne, if_false]

theorem exponent?_cons (e : Code) (t : Text) :
    exponent? (e :: t) = if e = 'e' ∨ e = 'E' then
      exponentBehind (exponentSign t).1 (exponentSign t).2 else none :=
  rfl

theorem exponent?_eq_some {t : Text} {n : Int} (h : exponent? t = some (n, r)) :
    ∃ e c, t = e :: (c ++ r) ∧ (e = 'e' ∨ e = 'E') ∧
      ∀ u, NoDigit u → exponent? (e :: (c ++ u)) = some (n, u) := by
  cases t with
  | nil => cases h
  | cons e t =>
    rw [exponent?_cons] at h
    split at h
    · next he =>
      obtain ⟨s, hs, happend⟩ := exponentSign_append t
      obtain ⟨ds, hds, hdigits, hne, -, hn⟩ := exponentBehind_eq_some_iff.mp h
      refine ⟨e, s ++ ds, ?_, he, fun u hu => ?_⟩
      · rw [List.append_assoc, ← hds, ← hs]
      · have hhead : ∃ d ∈ (ds ++ u).head?, d.isAsciiDigit = true := by
          obtain ⟨d, ds, rfl⟩ := List.exists_cons_of_ne_nil hne
          exact ⟨d, rfl, hdigits d List.mem_cons_self⟩
        rw [exponent?_cons, if_pos he, List.append_assoc, happend _ hhead]
        exact exponentBehind_eq_some_iff.mpr ⟨ds, rfl, hdigits, hne, hu, hn⟩
    · cases h

theorem fractionOf_append (t : Text) :
    ∃ c, t = c ++ (fractionOf t).2 ∧ ∀ u, NoDigit u → u.head? ≠ some (Code.ofChar '.') →
      fractionOf (c ++ u) = ((fractionOf t).1, u) := by
  cases h : fraction? t with
  | none =>
    refine ⟨[], by simp [fractionOf, h], fun u _ hpoint => ?_⟩
    have hu : fraction? u = none := by
      unfold fraction?
      split
      · exact if_neg fun hc => hpoint (congrArg some hc.1)
      · rfl
    simp [fractionOf, h, hu]
  | some p =>
    obtain ⟨ps, r⟩ := p
    obtain ⟨rfl, hps, hne, -⟩ := fraction?_eq_some_iff.mp h
    refine ⟨'.' :: ps, by simp [fractionOf, h], fun u hu _ => ?_⟩
    have hfraction := fraction?_eq_some_iff.mpr ⟨rfl, hps, hne, hu⟩
    simp only [fractionOf, List.cons_append, hfraction, h, Option.map_some, Option.getD_some]

theorem exponentOf_append (t : Text) :
    ∃ c, t = c ++ (exponentOf t).2 ∧ (∀ e ∈ c.head?, e = 'e' ∨ e = 'E') ∧
      ∀ u, Ends u → exponentOf (c ++ u) = ((exponentOf t).1, u) := by
  cases h : exponent? t with
  | none =>
    refine ⟨[], by simp [exponentOf, h], by simp, fun u hu => ?_⟩
    simp [exponentOf, h, hu.exponent?_eq_none]
  | some p =>
    obtain ⟨n, r⟩ := p
    obtain ⟨e, c, rfl, he, happend⟩ := exponent?_eq_some h
    refine ⟨e :: c, by simp [exponentOf, h], by simpa using he, fun u hu => ?_⟩
    simp only [exponentOf, List.cons_append, happend u hu.noDigit, h, Option.map_some,
      Option.getD_some]

/-! ### Numbers -/

def magnitude? (negative : Bool) : Text → Option (Read Value)
  | [] => none
  | c :: r =>
    if !c.isAsciiDigit then none
    else if c = '0' then some (numberBehind negative [c] r)
    else some (numberBehind negative (c :: r.takeWhile Code.isAsciiDigit)
      (r.dropWhile Code.isAsciiDigit))

theorem magnitude?_eq_some_iff {negative : Bool} {t : Text} {x : Read Value} :
    magnitude? negative t = some x ↔ ∃ ds rest, t = ds ++ rest ∧ IsWhole ds ∧
      (ds = (['0'] : Text) ∨ NoDigit rest) ∧ numberBehind negative ds rest = x := by
  constructor
  · intro h
    cases t with
    | nil => cases h
    | cons c t =>
      rw [magnitude?] at h
      split at h
      · cases h
      · next hc =>
        simp only [Bool.not_eq_true', Bool.not_eq_false] at hc
        split at h
        · next hzero =>
          -- a zero ends the digits, whatever follows it
          subst hzero
          refine ⟨_, t, rfl, ⟨?_, List.cons_ne_nil _ _, fun _ => rfl⟩, .inl rfl, Option.some.inj h⟩
          exact List.forall_mem_singleton.mpr hc
        · next hzero =>
          refine ⟨_, _, ?_, ⟨?_, List.cons_ne_nil _ _, fun h => ?_⟩, .inr (noDigit_dropWhile t),
            Option.some.inj h⟩
          · rw [List.cons_append, List.takeWhile_append_dropWhile]
          · exact List.forall_mem_cons.mpr ⟨hc, isDigits_takeWhile t⟩
          · exact absurd (Option.some.inj h) hzero
  · rintro ⟨ds, rest, rfl, hwhole, hcut, rfl⟩
    obtain ⟨c, ds, rfl⟩ := List.exists_cons_of_ne_nil hwhole.ne_nil
    obtain ⟨hc, hds⟩ := List.forall_mem_cons.mp hwhole.digits
    rw [List.cons_append, magnitude?, if_neg (by simp [hc])]
    split
    · next hzero =>
      subst hzero
      have hnil : ds = [] := (List.cons.inj (hwhole.zero rfl)).2
      rw [hnil, List.nil_append]
    · next hzero =>
      have hrest : NoDigit rest := hcut.resolve_left fun h => hzero (List.cons.inj h).1
      rw [takeWhile_digits hds hrest, dropWhile_digits hds hrest]

theorem some_numberBehind (negative : Bool) (whole rest : Text) :
    some (numberBehind negative whole rest) =
      let fraction := fraction? rest
      let rest := (fraction.map (·.2)).getD rest
      let exponent := exponent? rest
      let rest := (exponent.map (·.2)).getD rest
      if fraction.isNone && exponent.isNone then
        if digitLimit < whole.length then some (.error (.longInteger whole.length))
        else
          let n : Int := ofAsciiDigits whole
          some (.ok (.int (if negative then -n else n), rest))
      else
        let places := (fraction.map (·.1)).getD []
        some (.ok (.float (Binary64.ofDecimal negative
          ((whole ++ places).map fun c => c.val - 0x30)
          ((exponent.map (·.1)).getD 0 - (places.length : Int))), rest)) := by
  simp only [numberBehind, numberOf, fractionOf, exponentOf, Option.isNone_map]
  split
  · split <;> rfl
  · rfl

theorem number?_cons (c : Code) (t : Text) :
    number? (c :: t) = if c = '-' then magnitude? true t else magnitude? false (c :: t) := by
  rw [number?]
  by_cases hc : c = '-'
  · simp only [hc, if_true]
    cases t with
    | nil => rfl
    | cons d t =>
      simp only [magnitude?, some_numberBehind]
      split
      · rfl
      · split <;> rfl
  · simp only [hc, if_false, magnitude?, some_numberBehind]
    split
    · rfl
    · split <;> rfl

/-- A number is read where digits stand behind a sign or none, up to the first code point that does
not belong to it. -/
theorem number?_eq_some_iff {t : Text} {x : Read Value} :
    number? t = some x ↔ ∃ negative ds rest, t = sign negative ++ (ds ++ rest) ∧ IsWhole ds ∧
      (ds = (['0'] : Text) ∨ NoDigit rest) ∧ numberBehind negative ds rest = x := by
  constructor
  · intro h
    cases t with
    | nil => cases h
    | cons c t =>
      rw [number?_cons] at h
      split at h
      · next hc =>
        obtain ⟨ds, rest, rfl, hx⟩ := magnitude?_eq_some_iff.mp h
        exact ⟨true, ds, rest, by rw [hc]; rfl, hx⟩
      · obtain ⟨ds, rest, he, hx⟩ := magnitude?_eq_some_iff.mp h
        exact ⟨false, ds, rest, he, hx⟩
  · rintro ⟨negative, ds, rest, rfl, hwhole, hx⟩
    cases negative with
    | true =>
      exact (number?_cons _ _).trans
        ((if_pos rfl).trans (magnitude?_eq_some_iff.mpr ⟨ds, rest, rfl, hwhole, hx⟩))
    | false =>
      have hm := magnitude?_eq_some_iff.mpr ⟨ds, rest, rfl, hwhole, hx⟩
      obtain ⟨c, ds, rfl⟩ := List.exists_cons_of_ne_nil hwhole.ne_nil
      have hc : c ≠ '-' := ne_of_isAsciiDigit (hwhole.digits c List.mem_cons_self) (by decide)
      exact (number?_cons _ _).trans ((if_neg hc).trans hm)

theorem numberOf_eq_error_iff {negative : Bool} {whole : Text} {fraction : Option Text}
    {exponent : Option Int} {e : Failure} :
    numberOf negative whole fraction exponent = .error e ↔ fraction = none ∧ exponent = none ∧
      digitLimit < whole.length ∧ e = .longInteger whole.length := by
  unfold numberOf
  cases fraction with
  | some _ => simp
  | none =>
    cases exponent with
    | some _ => simp
    | none => by_cases h : digitLimit < whole.length <;> simp [h, eq_comm]

theorem number?_eq_error_iff {t : Text} {e : Failure} :
    number? t = some (.error e) ↔ ∃ n, e = .longInteger n ∧ StartsLong t n := by
  rw [number?_eq_some_iff]
  constructor
  · rintro ⟨negative, ds, rest, rfl, hwhole, hcut, hx⟩
    obtain ⟨hfraction, hexponent, hlong, rfl⟩ := numberOf_eq_error_iff.mp (map_eq_error_iff.mp hx)
    rw [fractionOf, Option.map_eq_none_iff] at hfraction
    rw [exponentOf, Option.map_eq_none_iff, fractionOf, hfraction] at hexponent
    have hrest : NoDigit rest := by
      refine hcut.resolve_left ?_
      rintro rfl
      exact absurd hlong (by decide)
    exact ⟨_, rfl, .intro negative hwhole hlong hrest hfraction hexponent⟩
  · rintro ⟨_, rfl, h⟩
    cases h with
    | @intro negative ds rest hwhole hlong hdigit hfraction hexponent =>
      refine ⟨negative, ds, rest, rfl, hwhole, .inr hdigit, map_eq_error_iff.mpr ?_⟩
      refine numberOf_eq_error_iff.mpr ⟨?_, ?_, hlong, rfl⟩
      · rw [fractionOf, hfraction, Option.map_none]
      · rw [exponentOf, fractionOf, hfraction]
        exact Option.map_eq_none_iff.mpr hexponent

theorem numberBehind_append {negative : Bool} {whole rest : Text} {v : Value}
    (h : numberBehind negative whole rest = .ok (v, r)) :
    ∃ c, rest = c ++ r ∧ ∀ u, Ends u → numberBehind negative whole (c ++ u) = .ok (v, u) := by
  obtain ⟨f, hf, hfraction⟩ := fractionOf_append rest
  obtain ⟨e, he, hletter, hexponent⟩ := exponentOf_append (fractionOf rest).2
  obtain ⟨w, hw, hr⟩ := map_eq_ok_iff.mp h
  cases hr
  refine ⟨f ++ e, by rw [List.append_assoc, ← he, ← hf], fun u hu => ?_⟩
  -- behind the fraction stands the letter of the exponent, or else what ends the number
  have hhead : ∀ c ∈ (e ++ u).head?, c.isAsciiDigit = false ∧ c ≠ '.' := by
    intro c hc
    cases e with
    | nil => exact ⟨(hu c hc).1, (hu c hc).2.1⟩
    | cons d e =>
      cases hc
      rcases hletter _ rfl with rfl | rfl <;> decide
  have hpoint : (e ++ u).head? ≠ some (Code.ofChar '.') := fun h => (hhead _ h).2 rfl
  rw [numberBehind, List.append_assoc, hfraction _ (fun c hc => (hhead c hc).1) hpoint]
  dsimp only
  rw [hexponent u hu]
  exact map_eq_ok_iff.mpr ⟨v, hw, rfl⟩

/-- A number that is read does not depend on what follows it, once it ends. -/
theorem number?_append {t : Text} {v : Value} (h : number? t = some (.ok (v, r))) :
    ∃ c, t = c ++ r ∧ c ≠ [] ∧ ∀ u, Ends u → number? (c ++ u) = some (.ok (v, u)) := by
  obtain ⟨negative, ds, rest, rfl, hwhole, hcut, hx⟩ := number?_eq_some_iff.mp h
  obtain ⟨c, rfl, happend⟩ := numberBehind_append hx
  refine ⟨sign negative ++ (ds ++ c), by simp only [List.append_assoc], ?_, fun u hu => ?_⟩
  · simp [hwhole.ne_nil]
  · refine number?_eq_some_iff.mpr ⟨negative, ds, c ++ u, by simp only [List.append_assoc], hwhole,
      ?_, happend u hu⟩
    refine hcut.imp_right fun hrest => ?_
    cases c with
    | nil => exact hu.noDigit
    | cons d c => exact hrest

/-! ### Scalars -/

/-- A digit stands at the start of a text, or behind a minus sign there. -/
def startsNumber : Text → Bool
  | [] => false
  | c :: t => if c = '-' then t.head?.any Code.isAsciiDigit else c.isAsciiDigit

theorem startsNumber_of_number? {t : Text} {x : Read Value} (h : number? t = some x) :
    startsNumber t = true := by
  obtain ⟨negative, ds, rest, rfl, hwhole, -⟩ := number?_eq_some_iff.mp h
  obtain ⟨d, ds, rfl⟩ := List.exists_cons_of_ne_nil hwhole.ne_nil
  have hd : d.isAsciiDigit = true := hwhole.digits d List.mem_cons_self
  cases negative with
  | true => exact hd
  | false => exact (if_neg (ne_of_isAsciiDigit hd (by decide))).trans hd

theorem startsNumber_of_mem_wordValues {p : Text × Value} (h : p ∈ wordValues) (t : Text) :
    startsNumber (p.1 ++ t) = false := by
  simp only [wordValues, List.mem_cons, List.not_mem_nil, or_false] at h
  rcases h with rfl | rfl | rfl | rfl | rfl | rfl <;> rfl

theorem word?_eq_some {t : Text} {ws : List (Text × Value)} {v : Value}
    (h : word? t ws = some (v, r)) : ∃ w, (w, v) ∈ ws ∧ t = w ++ r := by
  induction ws with
  | nil => cases h
  | cons p ws ih =>
    rw [word?] at h
    split at h
    · next hprefix =>
      cases h
      exact ⟨p.1, List.mem_cons_self, Text.dropPrefix?_eq_some_iff.mp hprefix⟩
    · obtain ⟨w, hw, ht⟩ := ih h
      exact ⟨w, List.mem_cons_of_mem p hw, ht⟩

theorem word?_append {ws : List (Text × Value)} (hne : ∀ p ∈ ws, p.1 ≠ [])
    (hheads : ws.Pairwise fun p q => p.1.head? ≠ q.1.head?) {p : Text × Value} (hp : p ∈ ws)
    (t : Text) : word? (p.1 ++ t) ws = some (p.2, t) := by
  induction ws with
  | nil => cases hp
  | cons q ws ih =>
    rw [word?]
    rcases List.mem_cons.mp hp with rfl | hp
    · rw [Text.dropPrefix?_eq_some_iff.mpr rfl]
    · have hnone : (p.1 ++ t).dropPrefix? q.1 = none := by
        rw [Option.eq_none_iff_forall_ne_some]
        intro r hr
        have hhead := congrArg List.head? (Text.dropPrefix?_eq_some_iff.mp hr)
        rw [List.head?_append_of_ne_nil _ (hne p (List.mem_cons_of_mem q hp)),
          List.head?_append_of_ne_nil _ (hne q List.mem_cons_self)] at hhead
        exact List.rel_of_pairwise_cons hheads hp hhead.symm
      rw [hnone]
      exact ih (fun p hp => hne p (List.mem_cons_of_mem q hp)) hheads.of_cons hp

theorem wordValues_ne_nil : ∀ p ∈ wordValues, p.1 ≠ [] := by
  decide

theorem wordValues_heads : wordValues.Pairwise fun p q => p.1.head? ≠ q.1.head? := by
  decide

theorem word?_of_number? {t : Text} {x : Read Value} (h : number? t = some x) :
    word? t wordValues = none := by
  cases hword : word? t wordValues with
  | none => rfl
  | some p =>
    obtain ⟨w, hw, rfl⟩ := word?_eq_some hword
    cases (startsNumber_of_number? h).symm.trans (startsNumber_of_mem_wordValues hw p.2)

theorem scalar_of_number? {t : Text} {x : Read Value} (h : number? t = some x) : scalar t = x := by
  rw [scalar, word?_of_number? h, h]

/-- A scalar that is read does not depend on what follows it, once it ends. -/
theorem scalar_append {t : Text} {v : Value} (h : scalar t = .ok (v, r)) :
    ∃ c, t = c ++ r ∧ c ≠ [] ∧ ∀ u, Ends u → scalar (c ++ u) = .ok (v, u) := by
  unfold scalar at h
  split at h
  · next hword =>
    cases h
    obtain ⟨w, hw, rfl⟩ := word?_eq_some hword
    refine ⟨w, rfl, wordValues_ne_nil _ hw, fun u _ => ?_⟩
    rw [scalar, word?_append wordValues_ne_nil wordValues_heads hw]
  · split at h
    · next hnumber =>
      rw [h] at hnumber
      obtain ⟨c, rfl, hc, happend⟩ := number?_append hnumber
      exact ⟨c, rfl, hc, fun u hu => scalar_of_number? (happend u hu)⟩
    · cases h

theorem scalar_eq_error {t : Text} {e : Failure} (h : scalar t = .error e) :
    e = .malformed .expectingValue t ∨ ∃ n, e = .longInteger n ∧ StartsLong t n := by
  unfold scalar at h
  split at h
  · cases h
  · split at h
    · next hnumber =>
      rw [h] at hnumber
      exact .inr (number?_eq_error_iff.mp hnumber)
    · cases h
      exact .inl rfl

end WebLint.Json
