import WebLint.Proofs.Numeral
import WebLint.Proofs.Utf8
import WebLint.Proofs.Xml.Writing

namespace WebLint.Xml

namespace State

variable {d : List Element} {o : List Frame}

theorem run_nil (s : State) : s.run [] = some s :=
  rfl

theorem run_cons (s : State) (c : Code) (t : Text) :
    s.run (c :: t) = (s.step c).bind (·.run t) :=
  rfl

theorem run_append (s : State) (t u : Text) : s.run (t ++ u) = (s.run t).bind (·.run u) :=
  List.foldlM_append

theorem run_trans {s s' s'' : State} {t u : Text} (ht : s.run t = some s')
    (hu : s'.run u = some s'') : s.run (t ++ u) = some s'' := by
  rw [run_append, ht]
  exact hu

theorem run_step {s s' s'' : State} {c : Code} {t : Text} (hc : s.step c = some s')
    (ht : s'.run t = some s'') : s.run (c :: t) = some s'' := by
  rw [run_cons, hc]
  exact ht

/-- A mode that only collects the code points of a class. -/
theorem run_collect (mode : Text → Mode) {p : Code → Prop}
    (hstep : ∀ n c, p c → step ⟨mode n, d, o⟩ c = some ⟨mode (n ++ [c]), d, o⟩)
    {t : Text} (ht : ∀ c ∈ t, p c) (n : Text) :
    run ⟨mode n, d, o⟩ t = some ⟨mode (n ++ t), d, o⟩ := by
  induction t generalizing n with
  | nil => rw [List.append_nil, run_nil]
  | cons c t ih =>
    have hr := ih (fun x hx => ht x (by simp [hx])) (n ++ [c])
    rw [List.append_assoc, List.singleton_append] at hr
    exact run_step (hstep n c (ht c (by simp))) hr

theorem run_spaces {t : Text} (ht : ∀ c ∈ t, isSpace c = true) :
    run ⟨.content, d, o⟩ t = some ⟨.content, d, o⟩ := by
  induction t with
  | nil => rfl
  | cons c t ih =>
    have hc : step ⟨.content, d, o⟩ c = some ⟨.content, d, o⟩ := by
      simp only [step, ht c (by simp), if_true]
    exact run_step hc (ih fun x hx => ht x (by simp [hx]))

theorem run_lineStart (level : Option Nat) :
    run ⟨.content, d, o⟩ (lineStart level) = some ⟨.content, d, o⟩ := by
  apply run_spaces
  intro c hc
  rcases mem_lineStart hc with rfl | rfl <;> decide

/-! ### Attributes -/

theorem numberedCode?_numeral (c : Code) : numberedCode? ('#' :: numeral c.val) = some c := by
  cases hn : numeral c.val with
  | nil => exact absurd hn (numeral_ne_nil c.val)
  | cons x r =>
    have hall : (x :: r).all Code.isAsciiDigit = true := by
      rw [List.all_eq_true, ← hn]
      exact isDigits_numeral c.val
    have hval : ofAsciiDigits (x :: r) = c.val := by
      rw [← hn, ofAsciiDigits_numeral]
    simp only [numberedCode?, hall, hval, c.val_lt, and_self, if_true, Code.ofNat_val]

theorem referenced?_numeral (c : Code) : referenced? ('#' :: numeral c.val) = some c := by
  have hn : namedCodes.lookup (('#' : Code) :: numeral c.val) = none := rfl
  rw [referenced?, hn, Option.none_or, numberedCode?_numeral]

theorem run_reference (h : Head) (k v : Text) (q : Code) (hq : q ≠ '&') (c : Code) :
    run ⟨.value ⟨h, k, q, v⟩, d, o⟩ (reference c.val) =
      some ⟨.value ⟨h, k, q, v ++ [c]⟩, d, o⟩ := by
  have hamp : step ⟨.value ⟨h, k, q, v⟩, d, o⟩ '&' = some ⟨.reference ⟨h, k, q, v⟩ [], d, o⟩ := by
    simp [step, stepValue, hq.symm]
  have hname : ∀ x ∈ ('#' : Code) :: numeral c.val, x ≠ ';' := by
    intro x hx
    rcases List.mem_cons.mp hx with rfl | hx
    · decide
    · exact ne_of_isAsciiDigit (isDigits_numeral _ x hx) (by decide)
  have hcollect := run_collect (d := d) (o := o) (.reference ⟨h, k, q, v⟩)
    (fun n x (hx : x ≠ ';') => by simp [step, hx]) hname []
  have hend : step ⟨.reference ⟨h, k, q, v⟩ ('#' :: numeral c.val), d, o⟩ ';' =
      some ⟨.value ⟨h, k, q, v ++ [c]⟩, d, o⟩ := by
    simp [step, referenced?_numeral]
  exact run_step hamp (run_trans hcollect (run_step hend (run_nil _)))

theorem eq_blank_of_isSpace {c : Code} (h : isSpace c = true) (hcr : c ≠ '\r') (hlf : c ≠ '\n')
    (htab : c ≠ '\t') : c = ' ' := by
  have hne : ∀ x : Char, c ≠ x → c.val ≠ x.toNat := fun x hx he => hx (Code.eq_of_val_eq he)
  have hcr := hne '\r' hcr
  have hlf := hne '\n' hlf
  have htab := hne '\t' htab
  simp only [isSpace, Bool.or_eq_true, beq_iff_eq] at h
  apply Code.eq_of_val_eq
  change c.val = 0x20
  change c.val ≠ 0xd at hcr
  change c.val ≠ 0xa at hlf
  change c.val ≠ 0x9 at htab
  omega

/-- A code point of a value is read as it was before it was escaped. -/
theorem run_escapeCode (h : Head) (k v : Text) (c : Code) :
    run ⟨.value ⟨h, k, '"', v⟩, d, o⟩ (escapeCode c) =
      some ⟨.value ⟨h, k, '"', v ++ [c]⟩, d, o⟩ := by
  unfold escapeCode
  split_ifs with hamp hlt hgt hquot hcr hlf htab hsur
  · subst hamp; rfl
  · subst hlt; rfl
  · subst hgt; rfl
  · subst hquot; rfl
  · subst hcr; rfl
  · subst hlf; rfl
  · subst htab; rfl
  · exact run_reference h k v '"' (by decide) c
  · -- The blank is the only white space left, and it is read as itself.
    have hd : (if isSpace c then ((' ' : Char) : Code) else c) = c := by
      split_ifs with hs
      · exact (eq_blank_of_isSpace hs hcr hlf htab).symm
      · rfl
    have hstep : step ⟨.value ⟨h, k, '"', v⟩, d, o⟩ c =
        some ⟨.value ⟨h, k, '"', v ++ [c]⟩, d, o⟩ := by
      simp only [step, stepValue, hquot, hamp, hlt, if_false, hd]
    exact run_step hstep (run_nil _)

theorem run_escape (h : Head) (k v t : Text) :
    run ⟨.value ⟨h, k, '"', v⟩, d, o⟩ (escape t) = some ⟨.value ⟨h, k, '"', v ++ t⟩, d, o⟩ := by
  induction t generalizing v with
  | nil => rw [List.append_nil]; rfl
  | cons c t ih =>
    have hr := ih (v ++ [c])
    rw [List.append_assoc, List.singleton_append] at hr
    exact run_trans (run_escapeCode h k v c) hr

/-- The mode behind a start tag that may go on. -/
def behind (h : Head) : Mode :=
  if h.attributes = [] then .tag h.tag else .unspaced h

theorem step_behind (h : Head) {c : Code} (hc : isNameCode c = false) :
    step ⟨behind h, d, o⟩ c = stepTag ⟨behind h, d, o⟩ h c := by
  obtain ⟨tag, attributes⟩ := h
  cases attributes with
  | nil => simp [step, behind, hc]
  | cons a as => simp [step, behind]

theorem run_writeAttribute (h : Head) {a : Attribute} (ha : IsName a.1)
    (hnew : a.1 ∉ h.attributes.map (·.1)) :
    run ⟨behind h, d, o⟩ (writeAttribute a) =
      some ⟨behind { h with attributes := h.attributes ++ [a] }, d, o⟩ := by
  obtain ⟨k, v⟩ := a
  obtain ⟨hne, hk⟩ := ha
  cases k with
  | nil => exact absurd rfl hne
  | cons c k =>
    have hblank : step ⟨behind h, d, o⟩ ' ' = some ⟨.space h, d, o⟩ := step_behind h (by decide)
    have hfirst : step ⟨.space h, d, o⟩ c = some ⟨.key h [c], d, o⟩ := by
      simp [step, hk c (by simp)]
    have hkey : run ⟨.key h [c], d, o⟩ k = some ⟨.key h (c :: k), d, o⟩ :=
      run_collect (.key h) (fun n x hx => by simp [step, hx]) (fun x hx => hk x (by simp [hx])) [c]
    have hopen : run ⟨.key h (c :: k), d, o⟩ "=\"" =
        some ⟨.value ⟨h, c :: k, '"', []⟩, d, o⟩ := rfl
    have hvalue := run_escape (d := d) (o := o) h (c :: k) [] v
    have hclose : step ⟨.value ⟨h, c :: k, '"', v⟩, d, o⟩ '"' =
        some ⟨behind { h with attributes := h.attributes ++ [(c :: k, v)] }, d, o⟩ := by
      simp [step, stepValue, behind, hnew]
    have hwrite : writeAttribute (c :: k, v) =
        ((' ' : Char) : Code) :: c :: (k ++ (("=\"" : Text) ++ (escape v ++ ("\"" : Text)))) := by
      simp only [writeAttribute, List.append_assoc]
      rfl
    rw [hwrite]
    exact run_step hblank (run_step hfirst (run_trans hkey (run_trans hopen
      (run_trans hvalue (run_step hclose (run_nil _))))))

theorem run_writeAttributes (h : Head) {as : List Attribute} (hkeys : ∀ a ∈ as, IsName a.1)
    (hnodup : ((h.attributes ++ as).map (·.1)).Nodup) :
    run ⟨behind h, d, o⟩ (as.flatMap writeAttribute) =
      some ⟨behind { h with attributes := h.attributes ++ as }, d, o⟩ := by
  induction as generalizing h with
  | nil => rw [List.append_nil]; rfl
  | cons a as ih =>
    have hnew : a.1 ∉ h.attributes.map (·.1) := by
      rw [List.map_append, List.nodup_append] at hnodup
      exact fun hm => hnodup.2.2 _ hm _ (by simp) rfl
    have hr := ih { h with attributes := h.attributes ++ [a] } (fun b hb => hkeys b (by simp [hb]))
      (by simpa only [List.append_assoc, List.singleton_append] using hnodup)
    rw [List.append_assoc, List.singleton_append] at hr
    exact run_trans (run_writeAttribute h (hkeys a (by simp)) hnew) hr

/-- A start tag up to what ends it. -/
theorem run_startTag {tag : Text} (htag : IsName tag) {as : List Attribute}
    (hkeys : ∀ a ∈ as, IsName a.1) (hnodup : (as.map (·.1)).Nodup) :
    run ⟨.content, d, o⟩ ("<" ++ tag ++ as.flatMap writeAttribute) =
      some ⟨behind ⟨tag, as⟩, d, o⟩ := by
  obtain ⟨hne, hcodes⟩ := htag
  cases tag with
  | nil => exact absurd rfl hne
  | cons c tag =>
    have hopen : step ⟨.content, d, o⟩ '<' = some ⟨.markup, d, o⟩ := rfl
    have hfirst : step ⟨.markup, d, o⟩ c = some ⟨.tag [c], d, o⟩ := by
      have hc := hcodes c (by simp)
      have hslash : c ≠ '/' := by
        rintro rfl
        cases hc
      simp [step, hslash, hc]
    have htag : run ⟨.tag [c], d, o⟩ tag = some ⟨behind ⟨c :: tag, []⟩, d, o⟩ :=
      run_collect .tag (fun n x hx => by simp [step, hx]) (fun x hx => hcodes x (by simp [hx])) [c]
    have has := run_writeAttributes (d := d) (o := o) ⟨c :: tag, []⟩ hkeys hnodup
    exact run_trans (run_step hopen (run_step hfirst htag)) has

theorem run_emptyEnd (h : Head) :
    run ⟨behind h, d, o⟩ " />" = some (push ⟨.content, d, o⟩ (.node h.tag h.attributes [])) := by
  have hblank : step ⟨behind h, d, o⟩ ' ' = some ⟨.space h, d, o⟩ := step_behind h (by decide)
  exact run_step hblank rfl

theorem run_endTag {tag : Text} (htag : IsName tag) (as : List Attribute) (cs : List Element) :
    run ⟨.content, cs, ⟨⟨tag, as⟩, d⟩ :: o⟩ ("</" ++ tag ++ ">") =
      some (push ⟨.content, d, o⟩ (.node tag as cs)) := by
  have hopen : run ⟨.content, cs, ⟨⟨tag, as⟩, d⟩ :: o⟩ "</" =
      some ⟨.endTag [], cs, ⟨⟨tag, as⟩, d⟩ :: o⟩ := rfl
  have hname : run ⟨.endTag [], cs, ⟨⟨tag, as⟩, d⟩ :: o⟩ tag =
      some ⟨.endTag tag, cs, ⟨⟨tag, as⟩, d⟩ :: o⟩ := by
    refine run_collect .endTag (fun n x (hx : isNameCode x = true) => ?_) htag.2 []
    have hend : x ≠ '>' := by
      rintro rfl
      cases hx
    simp [step, hend, hx]
  have hclose : step ⟨.endTag tag, cs, ⟨⟨tag, as⟩, d⟩ :: o⟩ '>' =
      some (push ⟨.content, d, o⟩ (.node tag as cs)) := by
    simp [step, closeElement]
  exact run_trans (run_trans hopen hname) (run_step hclose (run_nil _))

/-! ### Elements -/

mutual

theorem run_writeElement {e : Element} (he : e.WellNamed) (level : Option Nat) (d : List Element)
    (o : List Frame) :
    run ⟨.content, d, o⟩ (writeElement level e) = some (push ⟨.content, d, o⟩ e) := by
  match e, he with
  | .node tag as [], .node htag hkeys hnodup _ =>
    rw [writeElement]
    exact run_trans (run_startTag htag hkeys hnodup) (run_emptyEnd ⟨tag, as⟩)
  | .node tag as (c :: cs), .node htag hkeys hnodup hchildren =>
    have hstart := run_startTag (d := d) (o := o) htag hkeys hnodup
    have hopen : step ⟨behind ⟨tag, as⟩, d, o⟩ '>' =
        some ⟨.content, [], ⟨⟨tag, as⟩, d⟩ :: o⟩ := step_behind ⟨tag, as⟩ (by decide)
    have hbody := run_writeElements hchildren (level.map (· + 1)) [] (⟨⟨tag, as⟩, d⟩ :: o)
    have hline := run_lineStart (d := c :: cs) (o := ⟨⟨tag, as⟩, d⟩ :: o) level
    have hend := run_endTag (d := d) (o := o) htag as (c :: cs)
    rw [writeElement, List.append_assoc _ (("</" : Text)) , List.append_assoc _ _ (">" : Text)]
    exact run_trans (run_trans (run_trans (run_trans hstart (run_step hopen (run_nil _))) hbody)
      hline) hend

theorem run_writeElements {es : List Element} (hes : ∀ e ∈ es, e.WellNamed) (level : Option Nat)
    (d : List Element) (o : List Frame) :
    run ⟨.content, d, o⟩ (writeElements level es) = some ⟨.content, d ++ es, o⟩ := by
  match es with
  | [] =>
    rw [List.append_nil]
    rfl
  | e :: es =>
    have hhead := run_writeElement (hes e (by simp)) level d o
    have htail := run_writeElements (fun x hx => hes x (List.mem_cons_of_mem e hx)) level
      (d ++ [e]) o
    rw [List.append_assoc, List.singleton_append] at htail
    rw [writeElements]
    exact run_trans (run_trans (run_lineStart level) hhead) htail

end

end State

/-! ### Documents -/

/-- A code point that UTF-8 can hold and that ends no line. -/
def isKept (c : Code) : Bool :=
  !c.isSurrogate && c.val != 0xd

theorem isKept_markupCode {c : Code} (h : isMarkupCode c = true) : isKept c = true := by
  have hbounds := bounds_of_isMarkupCode h
  simp only [isKept, Code.isSurrogate, Bool.and_eq_true, Bool.not_eq_true', Bool.and_eq_false_iff,
    decide_eq_false_iff_not, bne_iff_ne]
  omega

theorem isKept_digit {c : Code} (h : c.isAsciiDigit = true) : isKept c = true :=
  isKept_markupCode (isMarkupCode_of_isNameCode (by simp [isNameCode, h]))

theorem all_isKept_escapeCode (c : Code) : (escapeCode c).all isKept = true := by
  unfold escapeCode
  split_ifs with hamp hlt hgt hquot hcr hlf htab hsur
  all_goals try decide
  · have hn : (numeral c.val).all isKept = true :=
      List.all_eq_true.mpr fun x hx => isKept_digit (isDigits_numeral _ x hx)
    rw [reference, List.all_append, List.all_append, hn]
    decide
  · have hval : c.val ≠ 0xd := fun he => hcr (Code.eq_of_val_eq he)
    simp [isKept, hsur, hval]

theorem all_isKept_escape (t : Text) : (escape t).all isKept = true := by
  simp only [escape, List.all_flatMap, all_isKept_escapeCode, List.all_eq_true, implies_true]

theorem all_isKept_quotedValue (v : Text) : (quotedValue v).all isKept = true := by
  rw [quotedValue, List.all_append, List.all_append, all_isKept_escape]
  rfl

theorem isKept_write {e : Element} (he : e.WellNamed) (indented : Bool) :
    ∀ c ∈ write indented e, isKept c = true := by
  have hcode : ∀ c, isMarkupCode c = true → [c].all isKept = true := by
    intro c hc
    rw [List.all_cons, isKept_markupCode hc]
    rfl
  have helement := writeElement_induction (P := fun t => t.all isKept = true) rfl
    (fun ht hu => by rw [List.all_append, ht, hu]; rfl) hcode he fun v _ =>
      all_isKept_quotedValue v
  rw [← List.all_eq_true, write, List.all_append, helement]
  decide

/-- UTF-8 holds every document. -/
theorem decode_octets {e : Element} (he : e.WellNamed) (indented : Bool) :
    Utf8.decode (octets indented e) = .ok (write indented e) := by
  apply Utf8.decode_encode
  intro c hc
  have hkept := isKept_write he indented c hc
  simp only [isKept, Bool.and_eq_true, Bool.not_eq_true'] at hkept
  exact hkept.1

theorem universalNewlines_eq {t : Text} (h : ∀ c ∈ t, c.val ≠ 0xd) : t.universalNewlines = t := by
  fun_induction Text.universalNewlines t with
  | case1 => rfl
  | case2 c hc => exact absurd hc (h c (by simp))
  | case3 c hc => rfl
  | case4 c d r hc hd ih => exact absurd hc (h c (by simp))
  | case5 c d r hc hd ih => exact absurd hc (h c (by simp))
  | case6 c d r hc ih => rw [ih fun x hx => h x (List.mem_cons_of_mem c hx)]

theorem declared?_declaration (t : Text) :
    declared? (declaration ++ t) = some (((lineFeed : Code)) :: t) :=
  rfl

theorem readText?_write {e : Element} (he : e.WellNamed) (indented : Bool) :
    readText? (write indented e) = some e := by
  have hline : State.step {} lineFeed = some {} := rfl
  have hrun := State.run_writeElement he (if indented then some 0 else none) [] []
  rw [readText?, write, declared?_declaration, Option.bind_some,
    State.run_step hline hrun]
  rfl

/-- Reading undoes writing. -/
theorem read?_octets {e : Element} (he : e.WellNamed) (indented : Bool) :
    read? (octets indented e) = some e := by
  have hlines : ∀ c ∈ write indented e, c.val ≠ 0xd := by
    intro c hc
    have hkept := isKept_write he indented c hc
    simp only [isKept, Bool.and_eq_true, bne_iff_ne] at hkept
    exact hkept.2
  rw [read?, decode_octets he]
  dsimp only
  rw [universalNewlines_eq hlines, readText?_write he]

end WebLint.Xml
