import WebLint.Proofs.Json.Limit
import WebLint.Proofs.Json.Prefix
import WebLint.Proofs.Json.Surrogates

namespace WebLint

/-! ### Fields put one after the other -/

/-- Put some fields behind those that are there already. -/
def putFields (done fs : List Field) : List Field :=
  fs.foldl (fun done f => putField done f.1 f.2) done

theorem putField_of_not_mem {fs : List Field} {key : Text} (h : key ∉ fs.map (·.1)) (v : Value) :
    putField fs key v = fs ++ [(key, v)] := by
  induction fs with
  | nil => rfl
  | cons f fs ih =>
    rw [List.map_cons, List.mem_cons, not_or] at h
    rw [putField, if_neg (Ne.symm h.1), ih h.2]
    rfl

theorem putFields_of_nodup {done fs : List Field} (h : ((done ++ fs).map (·.1)).Nodup) :
    putFields done fs = done ++ fs := by
  induction fs generalizing done with
  | nil => exact (List.append_nil done).symm
  | cons f fs ih =>
    rw [List.append_cons] at h ⊢
    have hf : f.1 ∉ done.map (·.1) := by
      rw [List.map_append, List.map_append] at h
      exact fun hmem => (List.nodup_append.mp (List.nodup_append.mp h).1).2.2 _ hmem _ (by simp) rfl
    rw [← ih h, ← putField_of_not_mem hf]
    rfl

theorem mem_putFields {done fs : List Field} {f : Field} (h : f ∈ putFields done fs) :
    f ∈ done ∨ f ∈ fs := by
  induction fs generalizing done with
  | nil => exact .inl h
  | cons g fs ih =>
    rcases ih h with h | h
    · rcases mem_putField h with h | rfl
      · exact .inl h
      · exact .inr List.mem_cons_self
    · exact .inr (List.mem_cons_of_mem g h)

namespace Json

/-- A written value: the text is read as the value, and it starts with none of the code points that
reading passes over or that end a list. -/
structure Renders (c : Text) (v : Value) : Prop where
  denotes : Denotes c v
  head : ∃ d r, c = d :: r ∧ isSpace d = false ∧ d ≠ ']' ∧ d.val ≠ 0xfeff

variable {c : Text} {v v' : Value} {vs vs' : List Value} {fs fs' : List Field}

theorem Renders.ne_nil (h : Renders c v) : c ≠ [] := by
  obtain ⟨d, r, rfl, -⟩ := h.head
  exact List.cons_ne_nil d r

theorem Renders.noSpace (h : Renders c v) : NoSpace c := by
  obtain ⟨d, r, rfl, hd, -⟩ := h.head
  rintro _ ⟨⟩
  exact hd

theorem Renders.noSpace_append (h : Renders c v) (t : Text) : NoSpace (c ++ t) :=
  h.noSpace.append h.ne_nil t

theorem Renders.read (h : Renders c v) : Json.read c = .ok v := by
  have hends : Ends [] := by simp [Ends]
  have hskip : skipSpace ([] ++ c) = c := skipSpace_append (by simp [Blanks]) h.noSpace
  have hvalue := h.denotes [] (2 * c.length + 2) hends (by rw [List.append_nil]; omega)
  rw [List.append_nil] at hvalue
  rw [List.nil_append] at hskip
  obtain ⟨d, r, rfl, -, -, hd⟩ := h.head
  rw [Json.read, if_neg hd, hskip, hvalue]
  rfl

/-! ### Scalars -/

theorem renders_scalar (h : scalar c = .ok (v, [])) {d : Code} {r : Text} (hc : c = d :: r)
    (hquote : d ≠ '"') (hopens : ∀ i, ¬ Opens d i) (hspace : isSpace d = false) (hclose : d ≠ ']')
    (hmark : d.val ≠ 0xfeff) : Renders c v := by
  obtain ⟨c, rfl, hne, happend⟩ := scalar_append h
  rw [List.append_nil] at hc ⊢
  refine ⟨denotes_scalar ?_ hne happend, d, r, hc, hspace, hclose, hmark⟩
  rw [hc]
  rintro _ ⟨⟩
  exact ⟨hquote, hopens⟩

theorem renders_null : Renders (write .null) .null :=
  renders_scalar rfl rfl (by decide) (by rintro i ⟨⟩) (by decide) (by decide) (by decide)

theorem renders_bool (b : Bool) : Renders (write (.bool b)) (.bool b) := by
  cases b <;>
    exact renders_scalar rfl rfl (by decide) (by rintro i ⟨⟩) (by decide) (by decide) (by decide)

/-- A zero stands in front of no other digit of a numeral. -/
theorem isWhole_numeral (n : Nat) : IsWhole (numeral n) where
  digits := isDigits_numeral n
  ne_nil := numeral_ne_nil n
  zero := by
    intro hzero
    obtain ⟨ds, hds⟩ := List.head?_eq_some_iff.mp hzero
    cases ds with
    | nil => exact hds
    | cons d ds =>
      have hdigits := isDigits_numeral n
      rw [hds, Text.IsDigits, List.forall_mem_cons] at hdigits
      have hvalue : ofAsciiDigits (d :: ds) = n := by
        rw [← ofAsciiDigits_numeral n, hds]
        rfl
      have hlt := ofAsciiDigits_lt hdigits.2
      rw [hvalue] at hlt
      have hlength := (numeral_length_le_iff (Nat.succ_pos _)).mpr hlt
      rw [hds] at hlength
      exact absurd hlength (by simp)

theorem number?_integerText {n : Int} (h : exceedsDigitLimit n = false) :
    number? (integerText n) = some (.ok (.int n, [])) := by
  have hlength := exceedsDigitLimit_eq_false_iff.mp h
  have hnumber : ∀ negative, numberBehind negative (numeral n.natAbs) [] =
      .ok (.int (if negative then -(n.natAbs : Int) else n.natAbs), []) := by
    intro negative
    have hof : numberOf negative (numeral n.natAbs) none none =
        .ok (.int (if negative then -(n.natAbs : Int) else n.natAbs)) := by
      simp only [numberOf, Option.isNone_none, Bool.and_self, if_true]
      rw [if_neg (by omega), ofAsciiDigits_numeral]
    exact congrArg (Except.map (·, [])) hof
  have hcut : ∀ negative, sign negative ++ numeral n.natAbs =
      sign negative ++ (numeral n.natAbs ++ []) := by simp
  cases n with
  | ofNat n =>
    exact number?_eq_some_iff.mpr
      ⟨false, _, _, hcut false, isWhole_numeral n, .inr (by simp [NoDigit]), hnumber false⟩
  | negSucc n =>
    exact number?_eq_some_iff.mpr
      ⟨true, _, _, hcut true, isWhole_numeral (n + 1), .inr (by simp [NoDigit]), hnumber true⟩

theorem renders_int {n : Int} (h : exceedsDigitLimit n = false) :
    Renders (write (.int n)) (.int n) := by
  have hscalar := scalar_of_number? (number?_integerText h)
  obtain ⟨d, r, hd⟩ := List.exists_cons_of_ne_nil (integerText_ne_nil n)
  have hmem : d ∈ integerText n := hd ▸ List.mem_cons_self
  rcases mem_integerText hmem with rfl | hdigit
  · exact renders_scalar hscalar hd (by decide) (by rintro i ⟨⟩) (by decide) (by decide) (by decide)
  · have hopens : ∀ i, ¬ Opens d i := by
      rintro i ⟨⟩ <;> cases hdigit
    have hval := Code.isAsciiDigit_iff.mp hdigit
    exact renders_scalar hscalar hd (ne_of_isAsciiDigit hdigit (by decide)) hopens
      (isSpace_digit hdigit) (ne_of_isAsciiDigit hdigit (by decide)) (by omega)

theorem renders_text (t : Text) : Renders (write (.text t)) (.text (joinSurrogates t)) :=
  ⟨denotes_quote (spells_flatMap_writeCode t), _, _, rfl, by decide, by decide, by decide⟩

/-! ### Lists and objects -/

theorem blanks_nil : Blanks [] := by
  simp [Blanks]

theorem blanks_space : Blanks [(' ' : Code)] := by
  intro c hc
  rw [List.mem_singleton.mp hc]
  rfl

theorem writeItems_cons_cons (v w : Value) (vs : List Value) :
    writeItems (v :: w :: vs) =
      write v ++ ((',' : Code) :: ([(' ' : Code)] ++ writeItems (w :: vs))) :=
  List.append_assoc (write v) ", " _

theorem exists_writeItems (v : Value) (vs : List Value) :
    ∃ r, writeItems (v :: vs) = write v ++ r := by
  cases vs with
  | nil => exact ⟨[], (List.append_nil _).symm⟩
  | cons w vs => exact ⟨_, writeItems_cons_cons v w vs⟩

/-- The items of a list, with the bracket behind them. -/
theorem completes_writeItems (h : List.Forall₂ (fun v v' => Renders (write v) v') vs vs')
    (hne : vs ≠ []) (done : List Value) :
    Completes (.list done) (writeItems vs ++ [(']' : Code)]) (.list (done.reverse ++ vs')) := by
  induction h generalizing done with
  | nil => exact absurd rfl hne
  | @cons v v' vs vs' hv hvs ih =>
    have hhead := Head.list done
    cases hvs with
    | nil =>
      have hlast := hv.denotes.completes_last hhead hv.ne_nil hv.noSpace blanks_nil
      rw [Inside.add, Inside.value, List.reverse_cons] at hlast
      exact hlast
    | @cons w w' vs vs' hw hvs =>
      have hrest := ih (List.cons_ne_nil _ _) (v' :: done)
      rw [List.reverse_cons, List.append_assoc, List.singleton_append] at hrest
      obtain ⟨r, hr⟩ := exists_writeItems w vs
      have hspace : NoSpace (writeItems (w :: vs) ++ [(']' : Code)]) := by
        rw [hr, List.append_assoc]
        exact hw.noSpace_append _
      have hmore := hv.denotes.completes_more hhead hv.ne_nil hv.noSpace blanks_nil blanks_space
        hrest (by simp) hspace
      rw [writeItems_cons_cons, List.append_assoc, List.cons_append, List.append_assoc]
      exact hmore

theorem renders_list (h : List.Forall₂ (fun v v' => Renders (write v) v') vs vs') :
    Renders (write (.list vs)) (.list vs') := by
  refine ⟨?_, _, _, rfl, by decide, by decide, by decide⟩
  cases h with
  | nil => exact denotes_empty .list blanks_nil
  | @cons v v' vs vs' hv hvs =>
    have hcompletes := completes_writeItems (.cons hv hvs) (List.cons_ne_nil v vs) []
    obtain ⟨r, hr⟩ := exists_writeItems v vs
    obtain ⟨d, t, hd, -, hclose, -⟩ := hv.head
    refine hcompletes.denotes .list blanks_nil (by simp) ?_ ?_
    · rw [hr, List.append_assoc]
      exact hv.noSpace_append _
    · rw [hr, hd]
      exact fun h => hclose (Option.some.inj h)

def writeKey (key : Text) : Text :=
  writeString key ++ ": "

theorem head_writeKey (done : List Field) (key : Text) :
    Head (.object done) (writeKey key) (joinSurrogates key) :=
  Head.object done (spells_flatMap_writeCode key) blanks_nil blanks_space

theorem writeFields_singleton (f : Field) : writeFields [f] = writeKey f.1 ++ write f.2 :=
  rfl

theorem writeFields_cons_cons (f g : Field) (fs : List Field) :
    writeFields (f :: g :: fs) =
      writeKey f.1 ++ (write f.2 ++ ((',' : Code) :: ([(' ' : Code)] ++ writeFields (g :: fs)))) :=
  (List.append_assoc (writeKey f.1 ++ write f.2) ", " _).trans (List.append_assoc _ _ _)

theorem exists_writeFields (f : Field) (fs : List Field) :
    ∃ r, writeFields (f :: fs) = ('"' : Code) :: r := by
  cases fs with
  | nil => exact ⟨_, rfl⟩
  | cons g fs => exact ⟨_, writeFields_cons_cons f g fs⟩

/-- A field as it is written and as it is read. -/
def RendersField (f f' : Field) : Prop :=
  f'.1 = joinSurrogates f.1 ∧ Renders (write f.2) f'.2

/-- The members of an object, with the brace behind them. -/
theorem completes_writeFields (h : List.Forall₂ RendersField fs fs') (hne : fs ≠ [])
    (done : List Field) : Completes (.object done) (writeFields fs ++ [('\x7d' : Code)])
      (.object (putFields done fs')) := by
  induction h generalizing done with
  | nil => exact absurd rfl hne
  | @cons f f' fs fs' hf hfs ih =>
    obtain ⟨hkey, hv⟩ := hf
    have hhead := head_writeKey done f.1
    rw [← hkey] at hhead
    cases hfs with
    | nil =>
      rw [writeFields_singleton, List.append_assoc]
      exact hv.denotes.completes_last hhead hv.ne_nil hv.noSpace blanks_nil
    | @cons g g' fs fs' hg hfs =>
      have hrest := ih (List.cons_ne_nil _ _) (putField done f'.1 f'.2)
      obtain ⟨r, hr⟩ := exists_writeFields g fs
      have hspace : NoSpace (writeFields (g :: fs) ++ [('\x7d' : Code)]) := by
        rw [hr]
        rintro _ ⟨⟩
        decide
      have hmore := hv.denotes.completes_more hhead hv.ne_nil hv.noSpace blanks_nil blanks_space
        hrest (by simp) hspace
      rw [writeFields_cons_cons, List.append_assoc, List.append_assoc, List.cons_append,
        List.append_assoc]
      exact hmore

theorem renders_object (h : List.Forall₂ RendersField fs fs') :
    Renders (write (.object fs)) (.object (putFields [] fs')) := by
  refine ⟨?_, _, _, rfl, by decide, by decide, by decide⟩
  cases h with
  | nil => exact denotes_empty .object blanks_nil
  | @cons f f' fs fs' hf hfs =>
    have hcompletes := completes_writeFields (.cons hf hfs) (List.cons_ne_nil f fs) []
    obtain ⟨r, hr⟩ := exists_writeFields f fs
    refine hcompletes.denotes .object blanks_nil (by simp) ?_ ?_
    · rw [hr]
      rintro _ ⟨⟩
      decide
    · rw [hr]
      rintro ⟨⟩

end Json

/-! ### Values that come back -/

/-- A value without fractions and moments, with integers that are not too long, with texts and keys
without surrogates that belong together, and without any key twice. -/
inductive Value.Lasts : Value → Prop
  | null : Lasts .null
  | bool (b : Bool) : Lasts (.bool b)
  | int {n : Int} (h : (numeral n.natAbs).length ≤ digitLimit) : Lasts (.int n)
  | text {t : Text} (h : Json.Unpaired t) : Lasts (.text t)
  | list {vs : List Value} (h : ∀ v ∈ vs, Lasts v) : Lasts (.list vs)
  | object {fs : List Field} (hkeys : (fs.map (·.1)).Nodup)
    (hunpaired : ∀ f ∈ fs, Json.Unpaired f.1) (h : ∀ f ∈ fs, Lasts f.2) : Lasts (.object fs)

theorem Value.Lasts.renders {v : Value} (h : v.Lasts) : Json.Renders (Json.write v) v := by
  induction h with
  | null => exact Json.renders_null
  | bool b => exact Json.renders_bool b
  | int h => exact Json.renders_int (exceedsDigitLimit_eq_false_iff.mpr h)
  | @text t h =>
    have ht := Json.renders_text t
    rwa [Json.joinSurrogates_of_unpaired h] at ht
  | list h ih => exact Json.renders_list (List.forall₂_same.mpr ih)
  | @object fs hkeys hunpaired h ih =>
    have hfields : putFields [] fs = fs := putFields_of_nodup hkeys
    have hobject := Json.renders_object (List.forall₂_same.mpr fun f hf =>
      ⟨(Json.joinSurrogates_of_unpaired (hunpaired f hf)).symm, ih f hf⟩)
    rwa [hfields] at hobject

theorem Json.read_write {v : Value} (h : v.Lasts) : Json.read (Json.write v) = .ok v :=
  h.renders.read

end WebLint
