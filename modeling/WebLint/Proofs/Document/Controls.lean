import WebLint.Proofs.Display.Stream
import WebLint.Proofs.Document.Characters

namespace WebLint

open Text

variable {c : Code} {q s t u v : Text}

/-! ### Texts in front of others -/

/-- No control sequence starts in this text if none does in what stands behind it. -/
def Text.Sealed (t : Text) : Prop :=
  ∀ u, HasNoControls u → HasNoControls (t ++ u)

theorem Text.Sealed.append (ht : Sealed t) (hu : Sealed u) : Sealed (t ++ u) := by
  intro r hr
  rw [List.append_assoc]
  exact ht _ (hu r hr)

theorem Text.hasNoControls_cons (hc : c ≠ Code.ofNat 0x1b) (ht : HasNoControls t) :
    HasNoControls (c :: t) := by
  intro s hs hpart
  obtain hpre | hpart := List.infix_cons_iff.mp hpart
  · obtain ⟨r, rfl⟩ := hs.exists_cons
    exact hc (List.cons_prefix_cons.mp hpre).1.symm
  · exact ht s hs hpart

theorem Text.sealed_of_not_mem (h : Code.ofNat 0x1b ∉ t) : Sealed t := by
  intro u hu
  induction t with
  | nil => exact hu
  | cons c t ih =>
    rw [List.mem_cons, not_or] at h
    exact hasNoControls_cons (Ne.symm h.1) (ih h.2)

namespace Xml

/-! ### Values of attributes -/

theorem escapeCode_of_isControlCode (hc : isControlCode c = true) : escapeCode c = [c] := by
  have hne : ∀ d : Char, isControlCode d = false → c ≠ d := by
    rintro d hd rfl
    cases hc.symm.trans hd
  have hsurrogate : c.isSurrogate = false := by
    cases hsurrogate : c.isSurrogate with
    | false => rfl
    | true =>
      simp only [isControlCode, Bool.or_eq_true, beq_iff_eq, Code.isAsciiDigit, Code.isAsciiLetter,
        Bool.and_eq_true, decide_eq_true_eq] at hc
      simp only [Code.isSurrogate, Bool.and_eq_true, decide_eq_true_eq] at hsurrogate
      obtain ((((rfl | rfl) | rfl) | rfl) | h) | h := hc
      · exact absurd hsurrogate (by decide)
      · exact absurd hsurrogate (by decide)
      · exact absurd hsurrogate (by decide)
      · exact absurd hsurrogate (by decide)
      · omega
      · omega
  simp only [escapeCode, hne '&' rfl, hne '<' rfl, hne '>' rfl, hne '"' rfl, hne '\r' rfl,
    hne '\n' rfl, hne '\t' rfl, hsurrogate, if_false, Bool.false_eq_true]

theorem exists_escapeCode (hc : isControlCode c = false) :
    ∃ e r, escapeCode c = e :: r ∧ isControlCode e = false := by
  unfold escapeCode
  split_ifs
  all_goals try exact ⟨'&', _, rfl, rfl⟩
  exact ⟨c, [], rfl, hc⟩

theorem escape_of_isControl (hs : IsControl s) : escape s = s := by
  have hcodes : ∀ c ∈ s, escapeCode c = [c] := fun c hc =>
    escapeCode_of_isControlCode (hs.isControlCode hc)
  rw [escape, List.flatMap_congr hcodes, List.flatMap_singleton']

theorem not_mem_escapeCode (hc : c ≠ Code.ofNat 0x1b) : Code.ofNat 0x1b ∉ escapeCode c := by
  have hnumeral : Code.ofNat 0x1b ∉ numeral c.val := fun hmem =>
    ne_of_isAsciiDigit (isDigits_numeral _ _ hmem) (d := Code.ofNat 0x1b) rfl rfl
  unfold escapeCode
  split_ifs
  all_goals try decide
  · simp only [reference, List.mem_append, not_or]
    exact ⟨⟨by decide, hnumeral⟩, by decide⟩
  · exact fun hmem => hc (List.mem_singleton.mp hmem).symm

theorem escape_cons (c : Code) (v : Text) : escape (c :: v) = escapeCode c ++ escape v :=
  List.flatMap_cons

theorem prefix_of_prefix_escape (hq : ∀ c ∈ q, isControlCode c = true)
    (h : q <+: escape v ++ ("\"" ++ u)) : q <+: v := by
  induction q generalizing v with
  | nil => exact List.nil_prefix
  | cons c q ih =>
    obtain ⟨hc, hq⟩ := List.forall_mem_cons.mp hq
    cases v with
    | nil =>
      obtain ⟨rfl, -⟩ := List.cons_prefix_cons.mp h
      cases hc
    | cons d v =>
      rw [escape_cons, List.append_assoc] at h
      by_cases hd : isControlCode d = true
      · rw [escapeCode_of_isControlCode hd] at h
        obtain ⟨hcd, htail⟩ := List.cons_prefix_cons.mp h
        exact List.cons_prefix_cons.mpr ⟨hcd, ih hq htail⟩
      · obtain ⟨e, r, he, hcode⟩ := exists_escapeCode (eq_false_of_ne_true hd)
        rw [he] at h
        obtain ⟨rfl, -⟩ := List.cons_prefix_cons.mp h
        cases hcode.symm.trans hc

theorem hasNoControls_escape_append (hv : HasNoControls v) (hu : HasNoControls u) :
    HasNoControls (escape v ++ ("\"" ++ u)) := by
  induction v with
  | nil => exact hasNoControls_cons (by decide) hu
  | cons c v ih =>
    have hrest := ih fun s hs hpart => hv s hs (List.infix_cons hpart)
    rw [escape_cons, List.append_assoc]
    by_cases hc : c = Code.ofNat 0x1b
    · subst hc
      rw [escapeCode_of_isControlCode rfl]
      intro s hs hpart
      obtain hpre | hpart := List.infix_cons_iff.mp hpart
      · obtain ⟨q, rfl⟩ := hs.exists_cons
        have hq : ∀ c ∈ q, isControlCode c = true := fun c hc =>
          hs.isControlCode (List.mem_cons_of_mem _ hc)
        have hpre := prefix_of_prefix_escape hq (List.cons_prefix_cons.mp hpre).2
        exact hv _ hs (List.cons_prefix_cons.mpr ⟨rfl, hpre⟩).isInfix
      · exact hrest s hs hpart
    · exact sealed_of_not_mem (not_mem_escapeCode hc) _ hrest

theorem sealed_quotedValue (hv : HasNoControls v) : Sealed (quotedValue v) := by
  intro u hu
  rw [quotedValue, List.append_assoc, List.append_assoc]
  exact hasNoControls_cons (by decide) (hasNoControls_escape_append hv hu)

/-- The documents of an element hold no control sequences if and only if its values hold none. -/
theorem hasNoControls_write_iff {e : Element} (he : e.WellNamed) (indented : Bool) :
    HasNoControls (write indented e) ↔ ∀ v, e.HasValue v → HasNoControls v := by
  constructor
  · rintro h v hv s hs ⟨before, after, rfl⟩
    have hescaped : s <:+: escape (before ++ s ++ after) := by
      have hself : s.flatMap escapeCode = s := escape_of_isControl hs
      rw [escape, List.flatMap_append, List.flatMap_append, hself]
      exact List.infix_append _ _ _
    have hvalue : escape (before ++ s ++ after) <:+: write indented e :=
      List.infix_append_of_infix_right (infix_writeElement hv _)
    exact h s hs (hescaped.trans hvalue)
  · intro h
    have hcode : ∀ c, isMarkupCode c = true → Sealed [c] := by
      intro c hc
      refine sealed_of_not_mem fun hmem => ?_
      rw [← List.mem_singleton.mp hmem] at hc
      cases hc
    have hdeclaration : Sealed declaration := sealed_of_not_mem (by decide)
    have helement := writeElement_induction (sealed_of_not_mem List.not_mem_nil) Sealed.append hcode
      he (fun v hv => sealed_quotedValue (h v hv)) (if indented then some 0 else none)
    have hall := hdeclaration.append helement [] (hasNoControls_of_not_mem List.not_mem_nil)
    rwa [List.append_nil] at hall

end Xml

/-- The documents of a report hold no control sequences if and only if what it shows holds none. -/
theorem Report.hasNoControls_write_element_iff (d : Dialect) (r : Report) (indented : Bool) :
    HasNoControls (Xml.write indented (r.element d)) ↔ ∀ t, r.Shows t → HasNoControls t := by
  rw [Xml.hasNoControls_write_iff (wellNamed_element d r)]
  constructor
  · intro h t ht
    exact h t (hasValue_of_shows ht)
  · intro h v hv
    obtain hshows | ⟨n, rfl⟩ := shows_or_integer hv
    · exact h v hshows
    · refine hasNoControls_of_not_mem fun hmem => ?_
      obtain h | h := mem_integerText hmem <;> cases h

end WebLint
