import Mathlib.Data.List.Forall2
import WebLint.Proofs.Text.Trim
import WebLint.Stage.Builtin

namespace WebLint

theorem Code.isBlank_of_isLineBreak {c : Code} (h : c.isLineBreak = true) : c.isBlank = true := by
  simp only [Code.isLineBreak, Bool.or_eq_true, Bool.and_eq_true, decide_eq_true_eq,
    beq_iff_eq] at h
  simp only [Code.isBlank, blankRanges, Ranges.has]
  grind

namespace Text

variable {c : Code} {t l : Text} {ls : List Text}

def IsLine (l : Text) : Prop :=
  ∀ c ∈ l, c.isLineBreak = false

/-- A text the last code point of which is no white space. -/
def EndsSolid (t : Text) : Prop :=
  ∃ c, t.getLast? = some c ∧ c.isBlank = false

theorem EndsSolid.ne_nil (h : EndsSolid t) : t ≠ [] := by
  rintro rfl
  obtain ⟨c, hc, -⟩ := h
  cases hc

theorem EndsSolid.trimEnd (h : EndsSolid t) : t.trimEnd = t := by
  obtain ⟨c, hlast, hc⟩ := h
  exact trimEnd_of_getLast? hlast hc

theorem EndsSolid.isBlank (h : EndsSolid t) : t.isBlank = false := by
  apply eq_false_of_ne_true
  intro hblank
  exact h.ne_nil (h.trimEnd ▸ trimEnd_eq_nil_iff.mpr hblank)

theorem endsSolid_append_iff (hne : t ≠ []) (s : Text) : EndsSolid (s ++ t) ↔ EndsSolid t := by
  rw [EndsSolid, List.getLast?_append_of_ne_nil s hne, EndsSolid]

/-! ### Splitting and joining -/

theorem lines_lineFeed (t : Text) : lines (lineFeed :: t) = [] :: t.lines := by
  cases t <;> rfl

theorem lines_singleton (hc : c.isLineBreak = false) : lines [c] = [[c]] := by
  rw [lines, hc]
  rfl

theorem lines_cons (hc : c.isLineBreak = false) (h : t.lines = l :: ls) :
    lines (c :: t) = (c :: l) :: ls := by
  have hreturn : c.val ≠ 0xd := by
    intro hval
    simp [Code.isLineBreak, hval] at hc
  cases t with
  | nil => cases h
  | cons d t =>
    rw [lines, if_neg fun hpair => hreturn hpair.1, hc, h]
    rfl

theorem lines_append_lineFeed (hl : IsLine l) (t : Text) :
    lines (l ++ lineFeed :: t) = l :: t.lines := by
  induction l with
  | nil => exact lines_lineFeed t
  | cons c l ih =>
    obtain ⟨hc, hl⟩ := List.forall_mem_cons.mp hl
    exact lines_cons hc (ih hl)

theorem lines_of_isLine (hl : IsLine l) (hne : l ≠ []) : l.lines = [l] := by
  induction l with
  | nil => exact absurd rfl hne
  | cons c l ih =>
    obtain ⟨hc, hl⟩ := List.forall_mem_cons.mp hl
    cases l with
    | nil => exact lines_singleton hc
    | cons d l => exact lines_cons hc (ih hl (List.cons_ne_nil d l))

theorem join_cons (hne : ls ≠ []) (sep l : Text) :
    join sep (l :: ls) = l ++ sep ++ join sep ls := by
  cases ls with
  | nil => exact absurd rfl hne
  | cons => rfl

theorem lines_join (h : ∀ l ∈ ls, IsLine l ∧ l ≠ []) : (join [lineFeed] ls).lines = ls := by
  induction ls with
  | nil => rfl
  | cons l ls ih =>
    obtain ⟨⟨hl, hne⟩, hls⟩ := List.forall_mem_cons.mp h
    by_cases hnil : ls = []
    · subst hnil
      exact lines_of_isLine hl hne
    · rw [join_cons hnil, List.append_assoc, List.singleton_append, lines_append_lineFeed hl,
        ih hls]

/-- A line break: one code point, or a carriage return with a line feed. -/
inductive IsBreak : Text → Prop
  | code {c : Code} (h : c.isLineBreak = true) : IsBreak [c]
  | pair {c d : Code} (hc : c.val = 0xd) (hd : d.val = 0xa) : IsBreak [c, d]

/-- A text with lines that it may be split into: the last one is not empty, the others end at
breaks. -/
inductive Splits : Text → List Text → Prop
  | nil : Splits [] []
  | last {l : Text} (hl : IsLine l) (hne : l ≠ []) : Splits l [l]
  | step {l b t : Text} {ls : List Text} (hl : IsLine l) (hb : IsBreak b) (ht : Splits t ls) :
    Splits (l ++ b ++ t) (l :: ls)

theorem Splits.cons (h : Splits t (l :: ls)) (hc : c.isLineBreak = false) :
    Splits (c :: t) ((c :: l) :: ls) := by
  cases h with
  | last hl _ => exact .last (List.forall_mem_cons.mpr ⟨hc, hl⟩) (List.cons_ne_nil c t)
  | step hl hb ht => exact .step (List.forall_mem_cons.mpr ⟨hc, hl⟩) hb ht

theorem Splits.eq_nil (h : Splits t []) : t = [] := by
  cases h
  rfl

theorem splits_lines (t : Text) : Splits t t.lines := by
  have hempty : IsLine [] := by simp [IsLine]
  fun_induction lines t with
  | case1 => exact .nil
  | case2 c hc => exact .step hempty (.code hc) .nil
  | case3 c hc => exact .last (by simpa [IsLine] using hc) (List.cons_ne_nil c [])
  | case4 c d r h ih => exact .step hempty (.pair h.1 h.2) ih
  | case5 c d r _ hc ih => exact .step hempty (.code hc) ih
  | case6 c d r _ hc l ls hr ih =>
    rw [hr] at ih
    exact ih.cons (eq_false_of_ne_true hc)
  | case7 c d r _ _ hr ih =>
    rw [hr] at ih
    exact absurd ih.eq_nil (List.cons_ne_nil d r)

theorem Splits.isLine (h : Splits t ls) : ∀ l ∈ ls, IsLine l := by
  induction h with
  | nil => simp
  | last hl _ => exact List.forall_mem_singleton.mpr hl
  | step hl _ _ ih => exact List.forall_mem_cons.mpr ⟨hl, ih⟩

theorem IsBreak.isBlank {b : Text} (h : IsBreak b) : ∀ c ∈ b, c.isBlank = true := by
  cases h with
  | code h => exact List.forall_mem_singleton.mpr (Code.isBlank_of_isLineBreak h)
  | @pair c d hc hd =>
    have hcr : c.isLineBreak = true := by simp [Code.isLineBreak, hc]
    have hlf : d.isLineBreak = true := by simp [Code.isLineBreak, hd]
    simp [Code.isBlank_of_isLineBreak hcr, Code.isBlank_of_isLineBreak hlf]

theorem filter_of_forall_isBlank (h : ∀ c ∈ t, c.isBlank = true) : t.filter (!·.isBlank) = [] := by
  apply List.filter_eq_nil_iff.mpr
  intro c hc
  simp [h c hc]

/-- Splitting a text loses nothing but white space. -/
theorem Splits.filter_flatten (h : Splits t ls) :
    ls.flatten.filter (!·.isBlank) = t.filter (!·.isBlank) := by
  induction h with
  | nil => rfl
  | last => rw [List.flatten_singleton]
  | @step l b t ls _ hb _ ih =>
    rw [List.flatten_cons, List.filter_append, ih, List.filter_append, List.filter_append,
      filter_of_forall_isBlank hb.isBlank, List.append_nil]

theorem IsBreak.eq_lineFeed {b : Text} (h : IsBreak b)
    (hbreaks : ∀ c ∈ b, c.isLineBreak = true → c = lineFeed) : b = [lineFeed] := by
  cases h with
  | @code c h => rw [hbreaks c (by simp) h]
  | @pair c d hc _ =>
    have hlf := hbreaks c (by simp) (by simp [Code.isLineBreak, hc])
    rw [hlf] at hc
    cases hc

/-- Where all breaks are line feeds and there is no white space at the end, joining the lines gives
the text. -/
theorem Splits.join (h : Splits t ls) (hbreaks : ∀ c ∈ t, c.isLineBreak = true → c = lineFeed)
    (hlast : t ≠ [] → EndsSolid t) : join [lineFeed] ls = t := by
  induction h with
  | nil => rfl
  | last => rfl
  | @step l b t ls _ hb ht ih =>
    have hb := hb.eq_lineFeed fun c hc => hbreaks c (by simp [hc])
    subst hb
    have hsolid := hlast (by simp)
    by_cases ht' : t = []
    · subst ht'
      obtain ⟨c, hc, hblank⟩ := hsolid
      rw [List.append_nil, List.getLast?_concat] at hc
      cases hc
      cases hblank
    · have hls : ls ≠ [] := by
        rintro rfl
        exact ht' ht.eq_nil
      rw [endsSolid_append_iff ht'] at hsolid
      rw [join_cons hls, ih (fun c hc => hbreaks c (by simp [hc])) fun _ => hsolid]

/-! ### Trimmed lines -/

/-- A line that is trimmed at its end up to something that is no white space. -/
def Keeps (l kept : Text) : Prop :=
  (∃ w, l = kept ++ w ∧ ∀ c ∈ w, c.isBlank = true) ∧ EndsSolid kept

/-- A text without blank lines, without white space at the end of a line or of all, and without
breaks other than line feeds. -/
structure IsTrimmed (t : Text) : Prop where
  breaks : ∀ c ∈ t, c.isLineBreak = true → c = lineFeed
  lines : ∀ l ∈ t.lines, EndsSolid l
  last : t ≠ [] → EndsSolid t

/-- The lines of a text that are not blank, without white space at their ends. -/
def trimmedLines (t : Text) : List Text :=
  (t.lines.filter (!·.isBlank)).map trimEnd

theorem keeps_trimEnd (hl : l.isBlank = false) : Keeps l l.trimEnd := by
  obtain ⟨w, hw, hblank, hlast⟩ := exists_trimEnd l
  refine ⟨⟨w, hw, hblank⟩, ?_⟩
  have hne : l.trimEnd ≠ [] := by
    rw [ne_eq, trimEnd_eq_nil_iff, hl]
    exact Bool.false_ne_true
  rw [EndsSolid, List.getLast?_eq_some_getLast hne]
  exact ⟨_, rfl, hlast _ (List.getLast?_eq_some_getLast hne)⟩

theorem trimLines_eq (t : Text) : t.trimLines = join [lineFeed] t.trimmedLines := by
  have hfilter : (fun l : Text => !l.trimEnd.isEmpty) = fun l => !l.isBlank := by
    funext l
    rw [Bool.eq_iff_iff]
    simp [trimEnd_eq_nil_iff]
  rw [trimLines, List.filter_map, Function.comp_def, hfilter, trimmedLines]

theorem forall₂_keeps (t : Text) :
    List.Forall₂ Keeps (t.lines.filter (!·.isBlank)) t.trimmedLines := by
  rw [trimmedLines, List.forall₂_map_right_iff, List.forall₂_same]
  intro l hl
  exact keeps_trimEnd (by simpa using List.of_mem_filter hl)

theorem of_mem_trimmedLines (hl : l ∈ t.trimmedLines) : IsLine l ∧ EndsSolid l := by
  obtain ⟨l, hmem, rfl⟩ := List.mem_map.mp hl
  obtain ⟨hmem, hblank⟩ := List.mem_filter.mp hmem
  obtain ⟨⟨w, hw, -⟩, hsolid⟩ := keeps_trimEnd (l := l) (by simpa using hblank)
  refine ⟨fun c hc => ?_, hsolid⟩
  apply t.splits_lines.isLine l hmem
  rw [hw]
  exact List.mem_append_left w hc

theorem lines_trimLines (t : Text) : t.trimLines.lines = t.trimmedLines := by
  rw [trimLines_eq]
  apply lines_join
  intro l hl
  obtain ⟨hline, hsolid⟩ := of_mem_trimmedLines hl
  exact ⟨hline, hsolid.ne_nil⟩

theorem filter_trimEnd (t : Text) : t.trimEnd.filter (!·.isBlank) = t.filter (!·.isBlank) := by
  obtain ⟨w, hw, hblank, -⟩ := exists_trimEnd t
  nth_rewrite 2 [hw]
  rw [List.filter_append, filter_of_forall_isBlank hblank, List.append_nil]

theorem filter_flatten_trimEnd (ls : List Text) :
    ((ls.filter (!·.isBlank)).map trimEnd).flatten.filter (!·.isBlank) =
      ls.flatten.filter (!·.isBlank) := by
  induction ls with
  | nil => rfl
  | cons l ls ih =>
    rw [List.flatten_cons, List.filter_append, ← filter_trimEnd l, ← ih]
    cases hl : l.isBlank with
    | true =>
      rw [List.filter_cons_of_neg (by simp [hl]), trimEnd_eq_nil_iff.mpr hl]
      rfl
    | false =>
      rw [List.filter_cons_of_pos (by simp [hl]), List.map_cons, List.flatten_cons,
        List.filter_append]

theorem filter_join {sep : Text} {p : Code → Bool} (hsep : sep.filter p = []) (ls : List Text) :
    (join sep ls).filter p = ls.flatten.filter p := by
  induction ls with
  | nil => rfl
  | cons l ls ih =>
    by_cases hnil : ls = []
    · subst hnil
      rw [List.flatten_singleton, join]
    · rw [join_cons hnil, List.filter_append, List.filter_append, hsep, List.append_nil, ih,
        List.flatten_cons, List.filter_append]

theorem filter_trimLines (t : Text) : t.trimLines.filter (!·.isBlank) = t.filter (!·.isBlank) := by
  have hsep : [lineFeed].filter (!·.isBlank) = [] := by decide
  rw [trimLines_eq, filter_join hsep, trimmedLines, filter_flatten_trimEnd,
    t.splits_lines.filter_flatten]

theorem mem_join {sep : Text} (hc : c ∈ join sep ls) : c ∈ sep ∨ ∃ l ∈ ls, c ∈ l := by
  induction ls with
  | nil => cases hc
  | cons l ls ih =>
    by_cases hnil : ls = []
    · subst hnil
      exact .inr ⟨l, by simp, hc⟩
    · rw [join_cons hnil, List.mem_append, List.mem_append] at hc
      obtain (hc | hc) | hc := hc
      · exact .inr ⟨l, by simp, hc⟩
      · exact .inl hc
      · exact (ih hc).imp_right fun ⟨l', hl', hc⟩ => ⟨l', List.mem_cons_of_mem l hl', hc⟩

theorem endsSolid_join {sep : Text} (hne : ls ≠ []) (h : ∀ l ∈ ls, EndsSolid l) :
    EndsSolid (join sep ls) := by
  induction ls with
  | nil => exact absurd rfl hne
  | cons l ls ih =>
    obtain ⟨hl, hls⟩ := List.forall_mem_cons.mp h
    by_cases hnil : ls = []
    · subst hnil
      exact hl
    · have hrest := ih hnil hls
      rw [join_cons hnil, endsSolid_append_iff hrest.ne_nil]
      exact hrest

theorem isTrimmed_trimLines (t : Text) : IsTrimmed t.trimLines := by
  constructor
  · intro c hc hbreak
    rw [trimLines_eq] at hc
    obtain hc | ⟨l, hl, hc⟩ := mem_join hc
    · exact List.mem_singleton.mp hc
    · rw [(of_mem_trimmedLines hl).1 c hc] at hbreak
      cases hbreak
  · intro l hl
    rw [lines_trimLines] at hl
    exact (of_mem_trimmedLines hl).2
  · intro hne
    rw [trimLines_eq] at hne ⊢
    apply endsSolid_join
    · intro hnil
      rw [hnil] at hne
      exact hne rfl
    · exact fun l hl => (of_mem_trimmedLines hl).2

theorem trimLines_of_isTrimmed (h : IsTrimmed t) : t.trimLines = t := by
  have hkept : t.lines.filter (!·.isBlank) = t.lines := by
    rw [List.filter_eq_self]
    intro l hl
    simp [(h.lines l hl).isBlank]
  have hbare : t.lines.map trimEnd = t.lines := by
    calc t.lines.map trimEnd = t.lines.map id :=
          List.map_congr_left fun l hl => (h.lines l hl).trimEnd
      _ = t.lines := List.map_id _
  rw [trimLines_eq, trimmedLines, hkept, hbare, t.splits_lines.join h.breaks h.last]

theorem trimLines_eq_self_iff : t.trimLines = t ↔ IsTrimmed t :=
  ⟨fun h => h ▸ isTrimmed_trimLines t, trimLines_of_isTrimmed⟩

end Text

/-- Trimming the lines of a text keeps all that is no white space and, of each line that is not
blank, all up to the end of that. What comes out has no white space at the end of a line and no
break but line feeds, and is not changed again. -/
theorem process_trimLines {σ : Type} (uri : Text) (type : ResourceType) (minimize : Bool) (t : Text)
    (m : σ) :
    ∃ out : Text, Builtin.trimLines.stage.process ⟨uri, type, minimize⟩ t m =
        ⟨.ok (.text out), m, []⟩ ∧
      out.IsTrimmed ∧ out.filter (!·.isBlank) = t.filter (!·.isBlank) ∧
      List.Forall₂ Text.Keeps (t.lines.filter (!·.isBlank)) out.lines ∧
      Builtin.trimLines.stage.process ⟨uri, type, minimize⟩ out m = ⟨.ok (.text out), m, []⟩ := by
  have hprocess : ∀ t : Text, Builtin.trimLines.stage.process ⟨uri, type, minimize⟩ t m =
      ⟨.ok (.text t.trimLines), m, []⟩ := by
    intro t
    cases type <;> cases minimize <;> rfl
  have htrimmed := Text.isTrimmed_trimLines t
  refine ⟨t.trimLines, hprocess t, htrimmed, t.filter_trimLines, ?_, ?_⟩
  · rw [Text.lines_trimLines]
    exact t.forall₂_keeps
  · rw [hprocess, Text.trimLines_eq_self_iff.mpr htrimmed]

example : ("\ta \r\n \r b\n\n" : Text).trimLines = "\ta\n b" := by
  decide

end WebLint
