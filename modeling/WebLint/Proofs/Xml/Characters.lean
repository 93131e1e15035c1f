import WebLint.Proofs.Xml.RoundTrip

namespace WebLint.Xml

def isCharacter (n : Nat) : Bool :=
  n == 0x9 || n == 0xa || n == 0xd || (0x20 ≤ n && n ≤ 0xd7ff) || (0xe000 ≤ n && n ≤ 0xfffd) ||
    (0x10000 ≤ n && n ≤ 0x10ffff)

def HasCharactersOnly (t : Text) : Prop :=
  ∀ c ∈ t, isCharacter c.val = true

instance (t : Text) : Decidable (HasCharactersOnly t) :=
  inferInstanceAs (Decidable (∀ _ ∈ _, _))

def ofHexDigits (t : Text) : Nat :=
  t.foldl (fun n c => 16 * n + c.hexValue?.getD 0) 0

/-- A number to which a text refers by a character reference, in decimal or hexadecimal digits. -/
inductive Refers (t : Text) : Nat → Prop
  | decimal {before digits after : Text} (h : t = before ++ "&#" ++ digits ++ ";" ++ after)
    (hne : digits ≠ []) (hdigits : digits.IsDigits) : Refers t (ofAsciiDigits digits)
  | hexadecimal {before digits after : Text} (h : t = before ++ "&#x" ++ digits ++ ";" ++ after)
    (hne : digits ≠ []) (hdigits : ∀ c ∈ digits, c.hexValue?.isSome = true) :
    Refers t (ofHexDigits digits)

/-- All code points of a text and all to which it refers are characters. -/
def IsLegal (t : Text) : Prop :=
  HasCharactersOnly t ∧ ∀ n, Refers t n → isCharacter n = true

/-! ### Ampersands -/

def ampersand : Code := '&'

def semicolon : Code := ';'

theorem eq_of_append_cons {t u r s : Text} (ht : semicolon ∉ t) (hu : semicolon ∉ u)
    (h : t ++ semicolon :: r = u ++ semicolon :: s) : t = u := by
  have htake : ∀ {v w : Text}, semicolon ∉ v →
      (v ++ semicolon :: w).takeWhile (· ≠ semicolon) = v := by
    intro v w hv
    rw [List.takeWhile_append_of_pos]
    · simp
    · intro c hc
      simpa using fun he : c = semicolon => hv (he ▸ hc)
  rw [← htake ht, h, htake hu]

/-- Each ampersand opens one of some references. -/
inductive Marked (names : List Text) : Text → Prop
  | nil : Marked names []
  | plain {c : Code} {t : Text} (h : c ≠ ampersand) (ht : Marked names t) : Marked names (c :: t)
  | reference {name t : Text} (h : name ∈ names) (ht : Marked names t) :
    Marked names (ampersand :: (name ++ semicolon :: t))

namespace Marked

variable {names : List Text}

theorem append {t u : Text} (ht : Marked names t) (hu : Marked names u) :
    Marked names (t ++ u) := by
  induction ht with
  | nil => exact hu
  | plain h _ ih => exact .plain h ih
  | reference h _ ih =>
    rw [List.cons_append, List.append_assoc, List.cons_append]
    exact .reference h ih

theorem of_not_mem {t : Text} (h : ampersand ∉ t) : Marked names t := by
  induction t with
  | nil => exact .nil
  | cons c t ih =>
    rw [List.mem_cons, not_or] at h
    exact .plain (Ne.symm h.1) (ih h.2)

/-- What stands between an ampersand and the next semicolon is one of the names. -/
theorem mem_names (hnames : ∀ n ∈ names, ampersand ∉ n ∧ semicolon ∉ n)
    {before body after : Text} (hbody : semicolon ∉ body)
    (h : Marked names (before ++ ampersand :: (body ++ semicolon :: after))) : body ∈ names := by
  generalize ht : before ++ ampersand :: (body ++ semicolon :: after) = t at h
  induction h generalizing before with
  | nil => simp at ht
  | plain h _ ih =>
    cases before with
    | nil => exact absurd (List.cons.inj ht).1.symm h
    | cons b before => exact ih (List.cons.inj ht).2
  | @reference n t hn _ ih =>
    cases before with
    | nil =>
      have hname : body = n :=
        eq_of_append_cons hbody (hnames n hn).2 (List.cons.inj ht).2
      rw [hname]
      exact hn
    | cons b before =>
      -- The ampersand is not in the name, so it stands behind the whole reference.
      obtain ⟨-, ht⟩ := List.cons.inj ht
      rcases List.append_eq_append_iff.mp ht with ⟨inner, hinner, h⟩ | ⟨inner, h, hinner⟩
      · cases inner with
        | nil => cases h
        | cons x inner =>
          obtain ⟨rfl, -⟩ := List.cons.inj h
          exact absurd (by simp [hinner]) (hnames n hn).1
      · cases inner with
        | nil => cases hinner
        | cons x inner => exact ih (List.cons.inj hinner).2.symm

end Marked

/-! ### Values without other code points -/

def referenceNames : List Text :=
  ["amp", "lt", "gt", "quot", "#13", "#10", "#09"]

theorem not_isSurrogate_of_isCharacter {c : Code} (h : isCharacter c.val = true) :
    c.isSurrogate = false := by
  simp only [isCharacter, Bool.or_eq_true, beq_iff_eq, Bool.and_eq_true, decide_eq_true_eq] at h
  simp only [Code.isSurrogate, Bool.and_eq_false_iff, decide_eq_false_iff_not]
  omega

theorem isCharacter_of_isMarkupCode {c : Code} (h : isMarkupCode c = true) :
    isCharacter c.val = true := by
  have hbounds := bounds_of_isMarkupCode h
  simp only [isCharacter, Bool.or_eq_true, beq_iff_eq, Bool.and_eq_true, decide_eq_true_eq]
  omega

def IsWritten (t : Text) : Prop :=
  HasCharactersOnly t ∧ Marked referenceNames t

namespace IsWritten

theorem nil : IsWritten [] :=
  ⟨by simp [HasCharactersOnly], .nil⟩

theorem append {t u : Text} (ht : IsWritten t) (hu : IsWritten u) : IsWritten (t ++ u) := by
  refine ⟨fun c hc => ?_, ht.2.append hu.2⟩
  exact (List.mem_append.mp hc).elim (ht.1 c) (hu.1 c)

theorem code {c : Code} (hc : isCharacter c.val = true) (hamp : c ≠ ampersand) :
    IsWritten [c] := by
  refine ⟨fun d hd => ?_, .plain hamp .nil⟩
  rw [List.mem_singleton.mp hd]
  exact hc

theorem reference {n : Text} (hn : n ∈ referenceNames) :
    IsWritten (ampersand :: (n ++ [semicolon])) := by
  have hall : ∀ n ∈ referenceNames, HasCharactersOnly (ampersand :: (n ++ [semicolon])) := by decide
  exact ⟨hall n hn, .reference hn .nil⟩

end IsWritten

theorem isWritten_escapeCode {c : Code} (h : isCharacter c.val = true) :
    IsWritten (escapeCode c) := by
  unfold escapeCode
  rw [not_isSurrogate_of_isCharacter h]
  split_ifs with hamp _ _ _ _ _ _ hsur
  · exact .reference (n := "amp") (by decide)
  · exact .reference (n := "lt") (by decide)
  · exact .reference (n := "gt") (by decide)
  · exact .reference (n := "quot") (by decide)
  · exact .reference (n := "#13") (by decide)
  · exact .reference (n := "#10") (by decide)
  · exact .reference (n := "#09") (by decide)
  · cases hsur
  · exact .code h hamp

theorem isWritten_escape {t : Text} (h : HasCharactersOnly t) : IsWritten (escape t) := by
  induction t with
  | nil => exact .nil
  | cons c t ih =>
    exact (isWritten_escapeCode (h c (by simp))).append (ih fun x hx => h x (by simp [hx]))

theorem isWritten_write {e : Element} (he : e.WellNamed)
    (h : ∀ v, e.HasValue v → HasCharactersOnly v) (indented : Bool) :
    IsWritten (write indented e) := by
  have hcode : ∀ c, isMarkupCode c = true → IsWritten [c] := by
    intro c hc
    refine .code (isCharacter_of_isMarkupCode hc) ?_
    rintro rfl
    cases hc
  have hdeclaration : IsWritten declaration := ⟨by decide, .of_not_mem (by decide)⟩
  have hvalue : ∀ v, e.HasValue v → IsWritten (quotedValue v) := fun v hv =>
    quotedValue_induction IsWritten.nil IsWritten.append hcode (isWritten_escape (h v hv))
  have helement := writeElement_induction IsWritten.nil IsWritten.append hcode he hvalue
    (if indented then some 0 else none)
  exact hdeclaration.append helement

theorem isCharacter_of_refers {t : Text} (h : Marked referenceNames t) {n : Nat}
    (hn : Refers t n) : isCharacter n = true := by
  have hnames : ∀ name ∈ referenceNames, ampersand ∉ name ∧ semicolon ∉ name := by decide
  have hbody : ∀ before body after : Text, semicolon ∉ body →
      t = before ++ "&" ++ body ++ ";" ++ after → body ∈ referenceNames := by
    rintro before body after hend rfl
    have heq : before ++ "&" ++ body ++ ";" ++ after =
        before ++ ampersand :: (body ++ semicolon :: after) := by
      simp only [List.append_assoc]
      rfl
    rw [heq] at h
    exact h.mem_names hnames hend
  cases hn with
  | @decimal before digits after ht _ hdigits =>
    have hnumbers : ∀ name ∈ referenceNames, ("#" : Text) <+: name →
        isCharacter (ofAsciiDigits name.tail) = true := by decide
    have hend : semicolon ∉ "#" ++ digits := by
      intro hmem
      rcases List.mem_append.mp hmem with hmem | hmem
      · cases List.mem_singleton.mp hmem
      · exact ne_of_isAsciiDigit (hdigits _ hmem) (by decide) rfl
    have hmem : "#" ++ digits ∈ referenceNames := by
      refine hbody before _ after hend (ht.trans ?_)
      simp only [List.append_assoc]
      rfl
    exact hnumbers _ hmem (List.prefix_append _ _)
  | @hexadecimal before digits after ht _ hdigits =>
    have hnumbers : ∀ name ∈ referenceNames, ¬ ("#x" : Text) <+: name := by decide
    have hend : semicolon ∉ "#x" ++ digits := by
      intro hmem
      rcases List.mem_append.mp hmem with hmem | hmem
      · revert hmem
        decide
      · cases hdigits _ hmem
    have hmem : "#x" ++ digits ∈ referenceNames := by
      refine hbody before _ after hend (ht.trans ?_)
      simp only [List.append_assoc]
      rfl
    exact absurd (List.prefix_append _ _) (hnumbers _ hmem)

/-! ### Values with other code points -/

theorem not_isLegal_of_infix {c : Code} (hc : isCharacter c.val = false) {t : Text}
    (h : escapeCode c <:+: t) : ¬ IsLegal t := by
  rintro ⟨hcharacters, hrefers_characters⟩
  have hne : ∀ d : Char, isCharacter (d : Code).val = true → c ≠ d := by
    rintro d hd rfl
    rw [hc] at hd
    cases hd
  have hescape : escapeCode c = if c.isSurrogate then reference c.val else [c] := by
    simp only [escapeCode, hne '&' rfl, hne '<' rfl, hne '>' rfl, hne '"' rfl, hne '\r' rfl,
      hne '\n' rfl, hne '\t' rfl, if_false]
  rw [hescape] at h
  split at h
  · next hsur =>
    obtain ⟨before, after, ht⟩ := h
    have hwritten : t = before ++ "&#" ++ numeral c.val ++ ";" ++ after := by
      rw [← ht, reference]
      simp only [List.append_assoc]
    have hrefers : Refers t (ofAsciiDigits (numeral c.val)) :=
      .decimal hwritten (numeral_ne_nil c.val) (isDigits_numeral c.val)
    have hcharacter := hrefers_characters _ hrefers
    rw [ofAsciiDigits_numeral, hc] at hcharacter
    cases hcharacter
  · have hcharacter := hcharacters c ((List.singleton_infix_iff c t).mp h)
    rw [hc] at hcharacter
    cases hcharacter

/-- The documents of an element are legal if and only if its values are. -/
theorem isLegal_write_iff {e : Element} (he : e.WellNamed) (indented : Bool) :
    IsLegal (write indented e) ↔ ∀ v, e.HasValue v → HasCharactersOnly v := by
  constructor
  · intro h v hv c hc
    by_contra hcharacter
    have hcode : escapeCode c <:+: escape v := by
      obtain ⟨before, after, rfl⟩ := List.append_of_mem hc
      rw [escape, List.flatMap_append, List.flatMap_cons]
      exact List.infix_append' _ _ _
    have hvalue : escape v <:+: write indented e :=
      List.infix_append_of_infix_right (infix_writeElement hv _)
    exact not_isLegal_of_infix (eq_false_of_ne_true hcharacter) (hcode.trans hvalue) h
  · intro h
    obtain ⟨hcharacters, hmarked⟩ := isWritten_write he h indented
    exact ⟨hcharacters, fun n hn => isCharacter_of_refers hmarked hn⟩

end WebLint.Xml
