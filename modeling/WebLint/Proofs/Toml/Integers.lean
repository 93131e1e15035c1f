import WebLint.Proofs.Traversal
import WebLint.Toml.Reader

namespace WebLint.Toml

/-- Digits of a class with single low lines between them, and how many digits they are. -/
inductive Run (p : Code → Bool) : Text → Nat → Prop
  | one {c : Code} (hc : p c = true) : Run p [c] 1
  | next {c : Code} {t : Text} {n : Nat} (hc : p c = true) (h : Run p t n) : Run p (c :: t) (n + 1)
  | spaced {c : Code} {t : Text} {n : Nat} (hc : p c = true) (h : Run p t n) :
    Run p (c :: '_' :: t) (n + 1)

/-- More decimal digits than an integer may have stand in a text. -/
def LongIn (t : Text) (n : Nat) : Prop :=
  digitLimit < n ∧ ∃ run, run <:+: t ∧ Run Code.isAsciiDigit run n

/-- A result of reading that leaves an end of the text, or that stops at an integer which stands in
it. -/
structure Stays {α : Type} (t : Text) (x : Except Failure (α × Text)) : Prop where
  suffix : ∀ a rest, x = .ok (a, rest) → rest <:+ t
  long : ∀ n, x = .error (.longInteger n) → LongIn t n

/-- A step of reading that stays within every text. -/
def Reader.Inside {α : Type} (r : Reader α) : Prop :=
  ∀ t, Stays t (r t)

variable {α β : Type}

theorem LongIn.of_suffix {t u : Text} {n : Nat} (h : LongIn u n) (hu : u <:+ t) : LongIn t n := by
  obtain ⟨hn, run, hrun, hdigits⟩ := h
  exact ⟨hn, run, hrun.trans hu.isInfix, hdigits⟩

theorem Stays.ok {t rest : Text} (h : rest <:+ t) (a : α) : Stays t (.ok (a, rest)) where
  suffix := by
    rintro _ _ ⟨⟩
    exact h
  long := by rintro n ⟨⟩

theorem Stays.malformed (t : Text) : Stays t (.error .malformed : Except Failure (α × Text)) where
  suffix := by rintro a rest ⟨⟩
  long := by rintro n ⟨⟩

theorem Stays.longInteger {t : Text} {n : Nat} (h : LongIn t n) :
    Stays t (.error (.longInteger n) : Except Failure (α × Text)) where
  suffix := by rintro a rest ⟨⟩
  long := by
    rintro _ ⟨⟩
    exact h

theorem Stays.of_suffix {t u : Text} {x : Except Failure (α × Text)} (h : Stays u x)
    (hu : u <:+ t) : Stays t x where
  suffix a rest hx := (h.suffix a rest hx).trans hu
  long n hx := (h.long n hx).of_suffix hu

/-! ### Steps of reading -/

namespace Reader

theorem inside_pure (a : α) : Inside (pure a) :=
  fun t => .ok (List.suffix_refl t) a

theorem inside_malformed : Inside (malformed : Reader α) :=
  Stays.malformed

theorem Inside.bind {r : Reader α} {f : α → Reader β} (hr : r.Inside) (hf : ∀ a, (f a).Inside) :
    Inside (r >>= f) := by
  intro t
  have hbind : (r >>= f) t = (r t >>= fun p => f p.1 p.2) := rfl
  rw [hbind]
  constructor
  · intro b rest h
    obtain ⟨⟨a, u⟩, ha, hb⟩ := bind_eq_ok_iff.mp h
    exact ((hf a u).suffix b rest hb).trans ((hr t).suffix a u ha)
  · intro n h
    rcases bind_eq_error_iff.mp h with h | ⟨⟨a, u⟩, ha, hb⟩
    · exact (hr t).long n h
    · exact ((hf a u).long n hb).of_suffix ((hr t).suffix a u ha)

theorem Inside.ite {c : Prop} [Decidable c] {r r' : Reader α} (h : r.Inside) (h' : r'.Inside) :
    Inside (if c then r else r') := by
  split
  · exact h
  · exact h'

/-- A condition that reading goes on without. -/
theorem Inside.unless {c : Prop} [Decidable c] {f : Unit → Reader α} (h : ∀ u, (f u).Inside) :
    Inside (if c then malformed >>= f else f ()) :=
  .ite (inside_malformed.bind h) (h ())

theorem inside_get : Inside (get : Reader Text) :=
  fun t => .ok (List.suffix_refl t) t

theorem get_bind_apply (f : Text → Reader α) (t : Text) : (get >>= f) t = f t t :=
  rfl

theorem inside_peek : Inside peek :=
  inside_get.bind fun _ => inside_pure _

theorem inside_advance : Inside advance :=
  fun t => .ok (List.tail_suffix t) ()

theorem suffix_of_dropPrefix? {t p rest : Text} (h : t.dropPrefix? p = some rest) : rest <:+ t :=
  ⟨p, (Text.dropPrefix?_eq_some_iff.mp h).symm⟩

theorem accept_apply (p t : Text) : accept p t = .ok (match t.dropPrefix? p with
    | none => (false, t)
    | some rest => (true, rest)) := by
  change (match t.dropPrefix? p with
    | none => pure false
    | some rest => (do set rest; return true : Reader Bool)) t = _
  cases t.dropPrefix? p <;> rfl

theorem inside_accept (p : Text) : Inside (accept p) := by
  intro t
  rw [accept_apply]
  cases h : t.dropPrefix? p with
  | none => exact .ok (List.suffix_refl t) false
  | some rest => exact .ok (suffix_of_dropPrefix? h) true

theorem inside_expect (p : Text) : Inside (expect p) := by
  unfold expect
  exact (inside_accept p).bind fun _ => .ite inside_malformed (inside_pure _)

theorem inside_all (p : Code → Bool) : Inside (all p) :=
  fun t => .ok (List.dropWhile_suffix p) (t.takeWhile p)

theorem inside_skipBlanks : Inside skipBlanks :=
  (inside_all _).bind fun _ => inside_pure _

end Reader

open Reader

theorem inside_skipComment : Inside skipComment := by
  refine (inside_accept _).bind fun _ => .ite ?_ (inside_pure _)
  exact (inside_all _).bind fun _ => .ite inside_malformed (inside_pure _)

/-! ### Strings -/

theorem inside_hexCode (n : Nat) : Inside (hexCode n) := by
  intro t
  rw [hexCode, get_bind_apply]
  dsimp only
  split
  · exact .malformed t
  · split
    · exact .malformed t
    · exact .ok (List.drop_suffix n t) _

theorem inside_escape (multiline : Bool) : Inside (escape multiline) := by
  refine inside_peek.bind fun c => ?_
  cases c with
  | none => exact inside_malformed
  | some c =>
    have hend : Inside (do let _ ← all isBlankOrNewline; return ([] : Text)) :=
      (inside_all _).bind fun _ => inside_pure _
    refine inside_advance.bind fun _ => .ite ?_ (.ite ?_ (.ite ?_ ?_))
    · refine .ite (inside_skipBlanks.bind fun _ => inside_peek.bind fun d => ?_) hend
      cases d with
      | none => exact inside_pure _
      | some d =>
        exact .ite (inside_malformed.bind fun _ => hend) (inside_advance.bind fun _ => hend)
    · exact (inside_hexCode 4).bind fun _ => inside_pure _
    · exact (inside_hexCode 8).bind fun _ => inside_pure _
    · split
      · exact inside_pure _
      · exact inside_malformed

theorem inside_basicBody (multiline : Bool) (fuel : Nat) : Inside (basicBody multiline fuel) := by
  induction fuel with
  | zero => exact inside_malformed
  | succ fuel ih =>
    refine (inside_accept _).bind fun _ => .ite (inside_pure _) (inside_peek.bind fun c => ?_)
    cases c with
    | none => exact inside_malformed
    | some c =>
      refine inside_advance.bind fun _ => .ite ?_ (.ite inside_malformed ?_)
      · exact (inside_escape multiline).bind fun _ => ih.bind fun _ => inside_pure _
      · exact ih.bind fun _ => inside_pure _

theorem inside_literalBody (multiline : Bool) (fuel : Nat) :
    Inside (literalBody multiline fuel) := by
  induction fuel with
  | zero => exact inside_malformed
  | succ fuel ih =>
    refine (inside_accept _).bind fun _ => .ite (inside_pure _) (inside_peek.bind fun c => ?_)
    cases c with
    | none => exact inside_malformed
    | some c =>
      refine inside_advance.bind fun _ => .ite inside_malformed ?_
      exact ih.bind fun _ => inside_pure _

theorem inside_moreQuotes (quote : Text) : Inside (moreQuotes quote) := by
  refine (inside_accept quote).bind fun _ => .ite ?_ (inside_pure _)
  exact (inside_accept quote).bind fun _ => .ite (inside_pure _) (inside_pure _)

theorem inside_lineString? : Inside lineString? := by
  refine inside_get.bind fun t => (inside_accept _).bind fun _ => .ite ?_ ?_
  · exact (inside_basicBody false _).bind fun _ => inside_pure _
  · refine (inside_accept _).bind fun _ => .ite ?_ (inside_pure _)
    exact (inside_literalBody false _).bind fun _ => inside_pure _

theorem inside_string? : Inside string? := by
  refine inside_get.bind fun t => (inside_accept _).bind fun _ => .ite ?_ ?_
  · refine (inside_accept _).bind fun _ => (inside_basicBody true _).bind fun _ => ?_
    exact (inside_moreQuotes _).bind fun _ => inside_pure _
  · refine (inside_accept _).bind fun _ => .ite ?_ inside_lineString?
    refine (inside_accept _).bind fun _ => (inside_literalBody true _).bind fun _ => ?_
    exact (inside_moreQuotes _).bind fun _ => inside_pure _

/-! ### Numbers -/

theorem spacedDigits_head {p : Code → Bool} {c : Code} {t : Text} (hc : p c = true) :
    (spacedDigits p (c :: t)).1 ≠ [] := by
  cases t with
  | nil => simp [spacedDigits, hc]
  | cons d t =>
    rw [spacedDigits, hc]
    simp only [Bool.not_true, Bool.false_eq_true, if_false]
    split <;> simp

/-- Digits are cut off the start of a text, or there are none. -/
theorem spacedDigits_cut (p : Code → Bool) (t : Text) :
    ((spacedDigits p t).1 = [] ∧ (spacedDigits p t).2 = t) ∨
      ∃ run, t = run ++ (spacedDigits p t).2 ∧ Run p run (spacedDigits p t).1.length := by
  fun_induction spacedDigits p t with
  | case1 => exact .inl ⟨rfl, rfl⟩
  | case2 c hc => exact .inr ⟨[c], rfl, .one hc⟩
  | case3 c _ => exact .inl ⟨rfl, rfl⟩
  | case4 c d r _ => exact .inl ⟨rfl, rfl⟩
  | case5 c d r hc hd ds rest hcut ih =>
    obtain ⟨rfl, hr⟩ := hd
    have hc : p c = true := by simpa using hc
    rw [hcut] at ih
    rcases ih with ⟨hds, -⟩ | ⟨run, rfl, hrun⟩
    · cases r with
      | nil => cases hr
      | cons e r => exact absurd ((congrArg Prod.fst hcut).trans hds) (spacedDigits_head hr)
    · exact .inr ⟨c :: '_' :: run, rfl, .spaced hc hrun⟩
  | case6 c d r hc hd ds rest hcut ih =>
    have hc : p c = true := by simpa using hc
    rw [hcut] at ih
    rcases ih with ⟨hds, hrest⟩ | ⟨run, he, hrun⟩
    · dsimp only at hds hrest
      rw [hds, hrest]
      exact .inr ⟨[c], rfl, .one hc⟩
    · rw [he]
      exact .inr ⟨c :: run, rfl, .next hc hrun⟩

theorem suffix_spacedDigits (p : Code → Bool) (t : Text) : (spacedDigits p t).2 <:+ t := by
  rcases spacedDigits_cut p t with ⟨-, hrest⟩ | ⟨run, ht, -⟩
  · exact ⟨[], hrest⟩
  · exact ⟨run, ht.symm⟩

section

variable {t rest : Text}

theorem suffix_fraction? {ds : Text} (h : fraction? t = some (ds, rest)) : rest <:+ t := by
  obtain ⟨r, hr, h⟩ := Option.bind_eq_some_iff.mp h
  dsimp only at h
  split at h
  · cases h
  · cases h
    exact (suffix_spacedDigits _ r).trans (suffix_of_dropPrefix? hr)

theorem suffix_sign (t : Text) : (sign t).2 <:+ t := by
  unfold sign
  split
  · exact List.suffix_refl []
  · next c r =>
    split
    · exact List.suffix_cons c r
    · split
      · exact List.suffix_cons c r
      · exact List.suffix_refl _

theorem suffix_exponent? {n : Int} (h : exponent? t = some (n, rest)) : rest <:+ t := by
  unfold exponent? at h
  split at h
  · cases h
  · next e r =>
    split at h
    · dsimp only at h
      split at h
      · cases h
      · cases h
        exact ((suffix_spacedDigits _ _).trans (suffix_sign r)).trans (List.suffix_cons e r)
    · cases h

theorem suffix_basedInteger? {n : Nat} (h : basedInteger? t = some (n, rest)) : rest <:+ t := by
  obtain ⟨b, -, hb⟩ := List.exists_of_findSome?_eq_some h
  obtain ⟨r, hr, h⟩ := Option.bind_eq_some_iff.mp hb
  dsimp only at h
  split at h
  · cases h
  · cases h
    exact (suffix_spacedDigits _ r).trans (suffix_of_dropPrefix? hr)

/-- What follows a part that may be missing. -/
theorem suffix_getD {x : Option (α × Text)} (h : ∀ a rest, x = some (a, rest) → rest <:+ t) :
    (x.map (·.2)).getD t <:+ t := by
  cases x with
  | none => exact List.suffix_refl t
  | some a => exact h a.1 a.2 rfl

theorem wholePart_cut (t : Text) : (wholePart t).1.length ≤ 1 ∧ (wholePart t).2 <:+ t ∨
    wholePart t = spacedDigits Code.isAsciiDigit t := by
  unfold wholePart
  split
  · exact .inr rfl
  · next c r =>
    split
    · exact .inl ⟨Nat.le_refl 1, List.suffix_cons c r⟩
    · exact .inr rfl

theorem suffix_wholePart (t : Text) : (wholePart t).2 <:+ t := by
  rcases wholePart_cut t with ⟨-, h⟩ | h
  · exact h
  · rw [h]
    exact suffix_spacedDigits _ t

theorem longIn_wholePart (h : digitLimit < (wholePart t).1.length) :
    LongIn t (wholePart t).1.length := by
  have hlimit : 1 ≤ digitLimit := by decide
  rcases wholePart_cut t with ⟨hone, -⟩ | hcut
  · omega
  · rw [hcut] at h ⊢
    rcases spacedDigits_cut Code.isAsciiDigit t with ⟨hnil, -⟩ | ⟨run, ht, hrun⟩
    · rw [hnil] at h
      exact absurd h (Nat.not_lt_zero _)
    · exact ⟨h, run, ⟨[], _, ht.symm⟩, hrun⟩

theorem stays_number? {x : Except Failure (Value × Text)} (h : number? t = some x) : Stays t x := by
  unfold number? at h
  split at h
  · next hbased =>
    cases h
    exact .ok (suffix_basedInteger? hbased) _
  · have hsign := suffix_sign t
    have hwhole := (suffix_wholePart (sign t).2).trans hsign
    have hfraction := (suffix_getD (t := (wholePart (sign t).2).2)
      fun _ _ => suffix_fraction?).trans hwhole
    have hexponent := (suffix_getD fun _ _ => suffix_exponent?).trans hfraction
    dsimp only at h
    split at h
    · cases h
    · split at h
      · split at h
        · next hlong =>
          cases h
          exact .longInteger ((longIn_wholePart hlong).of_suffix hsign)
        · cases h
          exact .ok hexponent _
      · cases h
        exact .ok hexponent _

/-! ### Moments -/

theorem suffix_bounded? {n lo hi m : Nat} (h : bounded? n lo hi t = some (m, rest)) :
    rest <:+ t := by
  unfold bounded? at h
  dsimp only at h
  split at h
  · cases h
    exact List.drop_suffix n t
  · cases h

theorem suffix_microseconds (t : Text) : (microseconds t).2 <:+ t := by
  unfold microseconds
  split
  · exact List.suffix_refl t
  · next r hr =>
    dsimp only
    split
    · exact List.suffix_refl t
    · exact (List.drop_suffix _ r).trans (suffix_of_dropPrefix? hr)

theorem suffix_clock? {c : Nat × Nat × Nat × Nat} (h : clock? t = some (c, rest)) :
    rest <:+ t := by
  unfold clock? at h
  simp only [Option.bind_eq_bind, Option.bind_eq_some_iff] at h
  obtain ⟨⟨hour, t₁⟩, h₁, t₂, h₂, ⟨minute, t₃⟩, h₃, t₄, h₄, ⟨second, t₅⟩, h₅, h⟩ := h
  cases h
  exact (suffix_microseconds t₅).trans ((suffix_bounded? h₅).trans ((suffix_of_dropPrefix? h₄).trans
    ((suffix_bounded? h₃).trans ((suffix_of_dropPrefix? h₂).trans (suffix_bounded? h₁)))))

theorem suffix_offset (t : Text) : (offset t).2 <:+ t := by
  unfold offset
  split
  · exact List.suffix_refl _
  · next c r =>
    split
    · exact List.suffix_cons c r
    · split
      · dsimp only
        split
        · next minutes rest hfound =>
          simp only [Option.bind_eq_bind, Option.bind_eq_some_iff] at hfound
          obtain ⟨⟨hours, r₁⟩, h₁, r₂, h₂, ⟨m, r₃⟩, h₃, h⟩ := hfound
          cases h
          exact ((suffix_bounded? h₃).trans ((suffix_of_dropPrefix? h₂).trans
            (suffix_bounded? h₁))).trans (List.suffix_cons c r)
        · exact List.suffix_refl _
      · exact List.suffix_refl _

theorem stays_dated? {x : Except Failure (Value × Text)} (h : dated? t = some x) : Stays t x := by
  unfold dated? at h
  simp only [Option.bind_eq_bind, Option.bind_eq_some_iff] at h
  obtain ⟨⟨year, t₁⟩, h₁, t₂, h₂, ⟨month, t₃⟩, h₃, t₄, h₄, ⟨day, t₅⟩, h₅, h⟩ := h
  have hsuffix := (suffix_bounded? h₅).trans ((suffix_of_dropPrefix? h₄).trans
    ((suffix_bounded? h₃).trans ((suffix_of_dropPrefix? h₂).trans (suffix_bounded? h₁))))
  dsimp only at h
  split at h
  · cases h
    exact .malformed t
  · split at h
    · cases h
      exact .ok hsuffix _
    · next t' htime =>
      have htime : t' <:+ t₅ := by
        split at htime
        · next c r =>
          split at htime
          · exact (suffix_clock? htime).trans (List.suffix_cons c r)
          · cases htime
        · cases htime
      cases h
      exact .ok ((suffix_offset t').trans (htime.trans hsuffix)) _

theorem stays_timed? {x : Except Failure (Value × Text)} (h : timed? t = some x) : Stays t x := by
  obtain ⟨⟨c, rest⟩, hc, rfl⟩ := Option.map_eq_some_iff.mp h
  exact .ok (suffix_clock? hc) _

end

theorem inside_scalar : Inside scalar := by
  intro t
  unfold scalar
  dsimp only
  split
  · next x hx =>
    simp only [Option.orElse_eq_orElse, Option.orElse_eq_or, Option.or_eq_some_iff] at hx
    rcases hx with hword | ⟨-, hdated | ⟨-, htimed | ⟨-, hnumber⟩⟩⟩
    · obtain ⟨w, -, hw⟩ := List.exists_of_findSome?_eq_some hword
      obtain ⟨r, hr, rfl⟩ := Option.map_eq_some_iff.mp hw
      exact .ok (suffix_of_dropPrefix? hr) _
    · exact stays_dated? hdated
    · exact stays_timed? htimed
    · exact stays_number? hnumber
  · exact .malformed t

/-! ### Keys and values -/

theorem inside_orMalformed (o : Option α) : Inside (orMalformed o) := by
  cases o with
  | none => exact inside_malformed
  | some a => exact inside_pure a

theorem inside_name : Inside name := by
  refine (inside_all isBare).bind fun _ => .ite (inside_pure _) ?_
  exact inside_lineString?.bind fun _ => inside_orMalformed _

theorem inside_keyFrom (fuel : Nat) : Inside (keyFrom fuel) := by
  induction fuel with
  | zero => exact inside_malformed
  | succ fuel ih =>
    refine inside_name.bind fun _ => inside_skipBlanks.bind fun _ => ?_
    refine (inside_accept _).bind fun _ => .ite ?_ (inside_pure _)
    exact inside_skipBlanks.bind fun _ => ih.bind fun _ => inside_pure _

theorem inside_key : Inside key :=
  inside_get.bind fun _ => inside_keyFrom _

theorem inside_keyBeforeValue : Inside keyBeforeValue :=
  inside_key.bind fun _ => (inside_expect _).bind fun _ =>
    inside_skipBlanks.bind fun _ => inside_pure _

theorem inside_skipBetween (fuel : Nat) : Inside (skipBetween fuel) := by
  induction fuel with
  | zero => exact inside_pure ()
  | succ fuel ih =>
    refine inside_get.bind fun _ => (inside_all _).bind fun _ => inside_skipComment.bind fun _ => ?_
    exact inside_get.bind fun _ => .ite ih (inside_pure _)

theorem inside_skipAllBetween : Inside skipAllBetween :=
  inside_get.bind fun _ => inside_skipBetween _

/-- Values, the elements of lists and the members of tables stay within a text, as far as the fuel
goes. -/
structure ValuesInside (fuel : Nat) : Prop where
  value : Inside (value fuel)
  elements : Inside (elements fuel)
  members : ∀ done frozen, Inside (members fuel done frozen)

theorem ValuesInside.zero : ValuesInside 0 where
  value := by
    rw [Toml.value]
    exact inside_malformed
  elements := by
    rw [Toml.elements]
    exact inside_malformed
  members done frozen := by
    rw [Toml.members]
    exact inside_malformed

theorem ValuesInside.succ {fuel : Nat} (h : ValuesInside fuel) : ValuesInside (fuel + 1) where
  value := by
    rw [Toml.value]
    refine inside_string?.bind fun t => ?_
    cases t with
    | some t => exact inside_pure _
    | none =>
      refine (inside_accept _).bind fun _ => .ite ?_ ?_
      · refine inside_skipAllBetween.bind fun _ => (inside_accept _).bind fun _ => ?_
        exact .ite (inside_pure _) (h.elements.bind fun _ => inside_pure _)
      · refine (inside_accept _).bind fun _ => .ite ?_ inside_scalar
        refine inside_skipBlanks.bind fun _ => (inside_accept _).bind fun _ => ?_
        exact .ite (inside_pure _) ((h.members [] []).bind fun _ => inside_pure _)
  elements := by
    rw [Toml.elements]
    refine h.value.bind fun _ => inside_skipAllBetween.bind fun _ => ?_
    refine (inside_accept _).bind fun _ => .ite (inside_pure _) ?_
    refine (inside_expect _).bind fun _ => inside_skipAllBetween.bind fun _ => ?_
    refine (inside_accept _).bind fun _ => .ite (inside_pure _) ?_
    exact h.elements.bind fun _ => inside_pure _
  members done frozen := by
    rw [Toml.members]
    refine inside_keyBeforeValue.bind fun k => h.value.bind fun v => ?_
    refine .unless fun _ => (inside_orMalformed _).bind fun _ => inside_skipBlanks.bind fun _ => ?_
    refine (inside_accept _).bind fun _ => .ite (inside_pure _) ?_
    refine (inside_expect _).bind fun _ => inside_skipBlanks.bind fun _ => ?_
    split
    · exact h.members _ _
    · exact h.members _ _
    · exact h.members _ _

end WebLint.Toml
