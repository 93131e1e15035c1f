import Mathlib.Data.List.Infix
import WebLint.Proofs.Xml.Reader

namespace WebLint.Xml

def IsName (t : Text) : Prop :=
  t ≠ [] ∧ ∀ c ∈ t, isNameCode c = true

instance (t : Text) : Decidable (IsName t) :=
  inferInstanceAs (Decidable (_ ∧ _))

/-- All tags and keys of an element are names, and no key occurs twice in a tag. -/
inductive Element.WellNamed : Element → Prop
  | node {tag : Text} {attributes : List Attribute} {children : List Element}
    (htag : IsName tag) (hkeys : ∀ a ∈ attributes, IsName a.1)
    (hnodup : (attributes.map (·.1)).Nodup) (hchildren : ∀ e ∈ children, e.WellNamed) :
    WellNamed (.node tag attributes children)

/-- A text is the value of an attribute of the element or of one inside of it. -/
inductive Element.HasValue (v : Text) : Element → Prop
  | own {tag key : Text} {attributes : List Attribute} {children : List Element}
    (h : (key, v) ∈ attributes) : HasValue v (.node tag attributes children)
  | child {tag : Text} {attributes : List Attribute} {children : List Element} {e : Element}
    (he : e ∈ children) (h : e.HasValue v) : HasValue v (.node tag attributes children)

/-- The code points of names, of markup and of the white space between elements. -/
def isMarkupCode (c : Code) : Bool :=
  isNameCode c || c = '<' || c = '>' || c = '/' || c = '=' || c = '"' || c = ' ' || c = '\n'

theorem bounds_of_isNameCode {c : Code} (h : isNameCode c = true) : 0x20 < c.val ∧ c.val < 0x80 := by
  simp only [isNameCode, Code.isAsciiLetter, Code.isAsciiDigit, Bool.or_eq_true,
    Bool.and_eq_true, decide_eq_true_eq] at h
  rcases h with ((((h | h) | rfl) | rfl) | rfl) | rfl
  · omega
  · omega
  all_goals decide

theorem bounds_of_isMarkupCode {c : Code} (h : isMarkupCode c = true) :
    c.val = 0xa ∨ 0x20 ≤ c.val ∧ c.val < 0x80 := by
  simp only [isMarkupCode, Bool.or_eq_true, decide_eq_true_eq] at h
  rcases h with ((((((h | rfl) | rfl) | rfl) | rfl) | rfl) | rfl) | rfl
  · have hbounds := bounds_of_isNameCode h
    omega
  all_goals decide

theorem isMarkupCode_of_isNameCode {c : Code} (h : isNameCode c = true) : isMarkupCode c = true := by
  simp [isMarkupCode, h]

theorem mem_lineStart {level : Option Nat} {c : Code} (h : c ∈ lineStart level) :
    c = '\n' ∨ c = ' ' := by
  cases level with
  | none => cases h
  | some n =>
    rcases List.mem_append.mp h with h | h
    · exact .inl (List.mem_singleton.mp h)
    · exact .inr (List.eq_of_mem_replicate h)

def quotedValue (v : Text) : Text :=
  "\"" ++ escape v ++ "\""

theorem writeAttribute_eq (a : Attribute) :
    writeAttribute a = " " ++ a.1 ++ "=" ++ quotedValue a.2 := by
  have hopen : Text.ofString "=\"" = "=" ++ "\"" := rfl
  simp only [writeAttribute, quotedValue, hopen, List.append_assoc]

/-! ### A property of documents -/

section

variable {P : Text → Prop} (hnil : P []) (happend : ∀ {t u : Text}, P t → P u → P (t ++ u))
  (hcode : ∀ c, isMarkupCode c = true → P [c])

include hnil happend hcode

theorem markup_induction {t : Text} (ht : ∀ c ∈ t, isMarkupCode c = true) : P t := by
  induction t with
  | nil => exact hnil
  | cons c t ih => exact happend (hcode c (ht c (by simp))) (ih fun x hx => ht x (by simp [hx]))

theorem name_induction {t : Text} (ht : IsName t) : P t :=
  markup_induction hnil happend hcode fun c hc => isMarkupCode_of_isNameCode (ht.2 c hc)

theorem lineStart_induction (level : Option Nat) : P (lineStart level) := by
  apply markup_induction hnil happend hcode
  intro c hc
  rcases mem_lineStart hc with rfl | rfl <;> decide

theorem writeAttributes_induction {as : List Attribute} (hkeys : ∀ a ∈ as, IsName a.1)
    (hvalues : ∀ a ∈ as, P (quotedValue a.2)) : P (as.flatMap writeAttribute) := by
  have hmarkup {t : Text} := markup_induction hnil happend hcode (t := t)
  induction as with
  | nil => exact hnil
  | cons a as ih =>
    have hkey := name_induction hnil happend hcode (hkeys a (by simp))
    have hfirst : P (writeAttribute a) := by
      rw [writeAttribute_eq]
      exact happend (happend (happend (hmarkup (by decide)) hkey) (hmarkup (by decide)))
        (hvalues a (by simp))
    exact happend hfirst (ih (fun x hx => hkeys x (by simp [hx])) fun x hx => hvalues x (by simp [hx]))

theorem quotedValue_induction {v : Text} (hv : P (escape v)) : P (quotedValue v) :=
  have hquote : P "\"" := markup_induction hnil happend hcode (by decide)
  happend (happend hquote hv) hquote

theorem writeElements_induction {es : List Element} {level : Option Nat}
    (hes : ∀ e ∈ es, P (writeElement level e)) : P (writeElements level es) := by
  induction es with
  | nil => exact hnil
  | cons e es ih =>
    have hline := lineStart_induction hnil happend hcode level
    rw [writeElements]
    exact happend (happend hline (hes e (by simp))) (ih fun x hx => hes x (by simp [hx]))

/-- What holds of markup, of names and of the values of an element holds of all that is written. -/
theorem writeElement_induction {e : Element} (he : e.WellNamed)
    (hvalues : ∀ v, e.HasValue v → P (quotedValue v)) (level : Option Nat) :
    P (writeElement level e) := by
  have hmarkup {t : Text} := markup_induction hnil happend hcode (t := t)
  induction he generalizing level with
  | @node tag as cs htag hkeys _ _ ih =>
    have hname := name_induction hnil happend hcode htag
    have hattributes : P (as.flatMap writeAttribute) :=
      writeAttributes_induction hnil happend hcode hkeys fun a ha => hvalues a.2 (.own ha)
    have hstart : P ("<" ++ tag ++ as.flatMap writeAttribute) :=
      happend (happend (hmarkup (by decide)) hname) hattributes
    cases cs with
    | nil =>
      rw [writeElement]
      exact happend hstart (hmarkup (by decide))
    | cons c cs =>
      have hchildren : P (writeElements (level.map (· + 1)) (c :: cs)) :=
        writeElements_induction hnil happend hcode fun e he =>
          ih e he (fun v hv => hvalues v (.child he hv)) _
      have hline := lineStart_induction hnil happend hcode level
      rw [writeElement]
      exact happend (happend (happend (happend (happend (happend hstart (hmarkup (by decide)))
        hchildren) hline) (hmarkup (by decide))) hname) (hmarkup (by decide))

end

/-! ### Values in documents -/

theorem infix_writeElements {e : Element} {es : List Element} (he : e ∈ es) (level : Option Nat) :
    writeElement level e <:+: writeElements level es := by
  induction es with
  | nil => cases he
  | cons x es ih =>
    rw [writeElements]
    rcases List.mem_cons.mp he with rfl | he
    · exact List.infix_append _ _ _
    · exact List.infix_append_of_infix_right (ih he)

theorem infix_writeAttributes {key v : Text} {as : List Attribute} (h : (key, v) ∈ as) :
    escape v <:+: as.flatMap writeAttribute := by
  obtain ⟨before, after, rfl⟩ := List.append_of_mem h
  have hwritten : escape v <:+: writeAttribute (key, v) := List.infix_append _ _ _
  rw [List.flatMap_append, List.flatMap_cons]
  exact List.infix_append_of_infix_right (List.infix_append_of_infix_left hwritten)

theorem infix_writeElement {v : Text} {e : Element} (h : e.HasValue v) (level : Option Nat) :
    escape v <:+: writeElement level e := by
  induction h generalizing level with
  | @own tag _ as cs h =>
    have hstart : escape v <:+: "<" ++ tag ++ as.flatMap writeAttribute :=
      List.infix_append_of_infix_right (infix_writeAttributes h)
    cases cs with
    | nil =>
      rw [writeElement]
      exact List.infix_append_of_infix_left hstart
    | cons c cs =>
      rw [writeElement]
      iterate 6 apply List.infix_append_of_infix_left
      exact hstart
  | @child tag as cs e he _ ih =>
    cases cs with
    | nil => cases he
    | cons c cs =>
      have hchild : escape v <:+: writeElements (level.map (· + 1)) (c :: cs) :=
        (ih _).trans (infix_writeElements he _)
      rw [writeElement]
      iterate 4 apply List.infix_append_of_infix_left
      exact List.infix_append_of_infix_right hchild

end WebLint.Xml
