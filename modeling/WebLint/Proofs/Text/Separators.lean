import WebLint.Proofs.Text.Lines

namespace WebLint

def Code.isNewline (c : Code) : Bool :=
  c.val == 0xa || c.val == 0xd

theorem Code.isLineBreak_of_isNewline {c : Code} (h : c.isNewline = true) :
    c.isLineBreak = true := by
  simp only [isNewline, Bool.or_eq_true, beq_iff_eq] at h
  obtain h | h := h <;> simp [isLineBreak, h]

theorem Code.isLineBreak_eq_false {c : Code} (h : c.isBlank = false) : c.isLineBreak = false := by
  apply eq_false_of_ne_true
  intro hbreak
  cases (isBlank_of_isLineBreak hbreak).symm.trans h

namespace Text

variable {p q : Code → Bool} {t l : Text}

/-- The lines of a text that some code points end, a carriage return together with a line feed behind
it. An end at the very end opens no further line. -/
def linesAt (p : Code → Bool) : Text → List Text
  | [] => []
  | [c] => if p c then [[]] else [[c]]
  | c :: d :: r =>
    if c.val = 0xd ∧ d.val = 0xa then [] :: linesAt p r
    else if p c then [] :: linesAt p (d :: r)
    else match linesAt p (d :: r) with
      | l :: ls => (c :: l) :: ls
      | [] => [[c]]

def sourceLines (t : Text) : List Text :=
  t.linesAt Code.isNewline

theorem linesAt_isLineBreak (t : Text) : t.linesAt Code.isLineBreak = t.lines := by
  fun_induction lines t <;> simp_all [linesAt]

theorem linesAt_congr (h : ∀ c ∈ t, p c = q c) : t.linesAt p = t.linesAt q := by
  fun_induction linesAt p t <;> simp_all [linesAt]

/-! ### Pieces between code points -/

/-- Where the code points of a class are taken for ends of lines, the lines are the pieces between
them, up to blank ones: a carriage return with a line feed has an empty piece between its two code
points, and an end at the very end has one behind it. -/
theorem linesAt_eq (hp : ∀ c, Code.isNewline c = true → p c = true) (hne : t ≠ []) :
    ∃ l ls ms, t.linesAt p = l :: ls ∧ t.splitOnP p = l :: ms ∧
      ls.filter (!·.isBlank) = ms.filter (!·.isBlank) := by
  have hempty : (!isBlank []) = false := rfl
  -- The first line is kept apart, since a code point in front of the text goes into it.
  fun_induction linesAt p t with
  | case1 => exact absurd rfl hne
  | case2 c hc => exact ⟨[], [], [[]], rfl, by simp [List.splitOnP_cons_eq_if_modifyHead, hc], rfl⟩
  | case3 c hc => exact ⟨[c], [], [], rfl, by simp [List.splitOnP_cons_eq_if_modifyHead, hc], rfl⟩
  | case4 c d r h ih =>
    have hc : p c = true := hp c (by simp [Code.isNewline, h.1])
    have hd : p d = true := hp d (by simp [Code.isNewline, h.2])
    refine ⟨[], linesAt p r, [] :: r.splitOnP p, rfl, ?_, ?_⟩
    · simp [List.splitOnP_cons_eq_if_modifyHead, hc, hd]
    · rw [List.filter_cons_of_neg (by simp [hempty])]
      cases r with
      | nil => rfl
      | cons e r =>
        obtain ⟨l, ls, ms, hl, hm, hrest⟩ := ih (List.cons_ne_nil e r)
        rw [hl, hm, List.filter_cons, List.filter_cons, hrest]
  | case5 c d r _ hc ih =>
    obtain ⟨l, ls, ms, hl, hm, hrest⟩ := ih (List.cons_ne_nil d r)
    refine ⟨[], l :: ls, l :: ms, by rw [hl], ?_, ?_⟩
    · rw [List.splitOnP_cons_eq_if_modifyHead, if_pos hc, hm]
    · rw [List.filter_cons, List.filter_cons, hrest]
  | case6 c d r _ hc l ls hr ih =>
    obtain ⟨l', ls', ms, hl, hm, hrest⟩ := ih (List.cons_ne_nil d r)
    rw [hr] at hl
    cases hl
    refine ⟨c :: l, ls, ms, rfl, ?_, hrest⟩
    rw [List.splitOnP_cons_eq_if_modifyHead, if_neg hc, hm, List.modifyHead_cons]
  | case7 c d r _ _ hr ih =>
    obtain ⟨l, ls, ms, hl, -, -⟩ := ih (List.cons_ne_nil d r)
    rw [hr] at hl
    cases hl

theorem filter_linesAt (hp : ∀ c, Code.isNewline c = true → p c = true) (t : Text) :
    (t.linesAt p).filter (!·.isBlank) = (t.splitOnP p).filter (!isBlank ·) := by
  by_cases hne : t = []
  · subst hne
    rfl
  · obtain ⟨l, ls, ms, hl, hm, hrest⟩ := linesAt_eq hp hne
    rw [hl, hm, List.filter_cons, List.filter_cons, hrest]

theorem splitOnP_eq_flatMap (h : ∀ c, q c = true → p c = true) (t : Text) :
    t.splitOnP p = (t.splitOnP q).flatMap (List.splitOnP p) := by
  induction t with
  | nil => rfl
  | cons c t ih =>
    by_cases hq : q c = true
    · rw [List.splitOnP_cons_eq_if_modifyHead, if_pos (h c hq),
        List.splitOnP_cons_eq_if_modifyHead, if_pos hq, List.flatMap_cons, ← ih]
      rfl
    · obtain ⟨l, ls, hl⟩ := List.exists_cons_of_ne_nil (List.splitOnP_ne_nil q t)
      obtain ⟨m, ms, hm⟩ := List.exists_cons_of_ne_nil (List.splitOnP_ne_nil p l)
      rw [List.splitOnP_cons_eq_if_modifyHead (p := q), if_neg hq, hl, List.modifyHead_cons,
        List.flatMap_cons, List.splitOnP_cons_eq_if_modifyHead, ih, hl, List.flatMap_cons,
        List.splitOnP_cons_eq_if_modifyHead, hm]
      by_cases hp : p c = true
      · rw [if_pos hp, if_pos hp]
        rfl
      · rw [if_neg hp, if_neg hp, List.cons_append, List.modifyHead_cons, List.modifyHead_cons,
          List.cons_append]

/-! ### Trimmed lines -/

theorem trimmedLines_eq_splitOnP (t : Text) :
    t.trimmedLines = ((t.splitOnP Code.isLineBreak).filter (!isBlank ·)).map trimEnd := by
  rw [trimmedLines, ← linesAt_isLineBreak, filter_linesAt fun _ => Code.isLineBreak_of_isNewline]

theorem trimmedLines_of_isBlank (h : t.isBlank = true) : t.trimmedLines = [] := by
  -- A line that is left has something that is no white space, and it comes from the text.
  rw [List.eq_nil_iff_forall_not_mem]
  intro l hl
  obtain ⟨c, hlast, hc⟩ := (of_mem_trimmedLines hl).2
  have hmem : c ∈ t.trimmedLines.flatten.filter (!·.isBlank) :=
    List.mem_filter.mpr
      ⟨List.mem_flatten.mpr ⟨l, hl, List.mem_of_getLast? hlast⟩, by simp [hc]⟩
  rw [trimmedLines, filter_flatten_trimEnd, t.splits_lines.filter_flatten,
    filter_of_forall_isBlank (List.all_eq_true.mp h)] at hmem
  cases hmem

theorem flatMap_filter_isBlank {f : Text → List Text} (hf : ∀ l : Text, l.isBlank = true → f l = [])
    (ls : List Text) : (ls.filter (!isBlank ·)).flatMap f = ls.flatMap f := by
  induction ls with
  | nil => rfl
  | cons l ls ih =>
    rw [List.flatMap_cons, ← ih]
    cases hl : l.isBlank with
    | true => rw [List.filter_cons_of_neg (by simp [hl]), hf l hl, List.nil_append]
    | false => rw [List.filter_cons_of_pos (by simp [hl]), List.flatMap_cons]

theorem flatMap_trimmedLines_filter (ls : List Text) :
    (ls.filter (!isBlank ·)).flatMap trimmedLines = ls.flatMap trimmedLines :=
  flatMap_filter_isBlank (fun _ => trimmedLines_of_isBlank) ls

theorem trimmedLines_eq_flatMap (t : Text) :
    t.trimmedLines = t.sourceLines.flatMap trimmedLines := by
  have hpieces : (t.splitOnP Code.isNewline).flatMap trimmedLines = t.trimmedLines := by
    rw [trimmedLines_eq_splitOnP, splitOnP_eq_flatMap fun _ => Code.isLineBreak_of_isNewline,
      List.filter_flatMap, List.map_flatMap]
    exact congrArg (fun f => List.flatMap f _) (funext trimmedLines_eq_splitOnP)
  rw [← hpieces, ← flatMap_trimmedLines_filter, ← filter_linesAt fun _ => id,
    flatMap_trimmedLines_filter]
  rfl

theorem splitOnP_append_of_isLine (hl : IsLine l) (t : Text) :
    (l ++ t).splitOnP Code.isLineBreak = (t.splitOnP Code.isLineBreak).modifyHead (l ++ ·) := by
  induction l with
  | nil => exact (congrFun List.modifyHead_id _).symm
  | cons c l ih =>
    obtain ⟨hc, hl⟩ := List.forall_mem_cons.mp hl
    rw [List.cons_append, List.splitOnP_cons_eq_if_modifyHead, hc, ih hl, List.modifyHead_modifyHead]
    rfl

theorem trimEnd_append_of_isBlank (s : Text) (h : t.isBlank = true) :
    (s ++ t).trimEnd = s.trimEnd := by
  have hblank : ∀ c ∈ t.reverse, c.isBlank = true := by
    simpa [isBlank] using h
  rw [trimEnd, dropEndWhile, List.reverse_append, List.dropWhile_append_of_pos hblank]
  rfl

theorem trimmedLines_append (hl : IsLine l) (hsolid : EndsSolid l) (ht : t.isBlank = true) :
    trimmedLines (l ++ t) = [l] := by
  obtain ⟨s, ss, hs⟩ := List.exists_cons_of_ne_nil (List.splitOnP_ne_nil Code.isLineBreak t)
  have hblank : ∀ u ∈ s :: ss, isBlank u = true := by
    have hnil := trimmedLines_of_isBlank ht
    rw [trimmedLines_eq_splitOnP, hs, List.map_eq_nil_iff, List.filter_eq_nil_iff] at hnil
    simpa using hnil
  obtain ⟨hsblank, hss⟩ := List.forall_mem_cons.mp hblank
  have hhead : isBlank (l ++ s) = false := by
    rw [isBlank, List.all_append, ← isBlank, hsolid.isBlank, Bool.false_and]
  have hrest : ss.filter (!isBlank ·) = [] := by
    rw [List.filter_eq_nil_iff]
    intro u hu
    simp [hss u hu]
  rw [trimmedLines_eq_splitOnP, splitOnP_append_of_isLine hl, hs, List.modifyHead_cons,
    List.filter_cons_of_pos (by simp [hhead]), hrest, List.map_singleton,
    trimEnd_append_of_isBlank l hsblank, hsolid.trimEnd]

/-- The lines of a source are trimmed one by one if and only if none of them has a separator in front
of something else. -/
theorem trimmedLines_eq_map_iff (t : Text) :
    t.trimmedLines = (t.sourceLines.filter (!·.isBlank)).map trimEnd ↔
      ∀ l ∈ t.sourceLines, IsLine l.trimEnd := by
  constructor
  · intro h l hl
    cases hblank : l.isBlank with
    | true =>
      rw [trimEnd_eq_nil_iff.mpr hblank]
      simp [IsLine]
    | false =>
      have hmem : l.trimEnd ∈ t.trimmedLines := by
        rw [h]
        exact List.mem_map_of_mem (List.mem_filter.mpr ⟨hl, by simp [hblank]⟩)
      exact (of_mem_trimmedLines hmem).1
  · intro h
    rw [trimmedLines_eq_flatMap, ← flatMap_trimmedLines_filter, List.map_eq_flatMap]
    apply List.flatMap_congr
    intro l hl
    obtain ⟨hmem, hblank⟩ := List.mem_filter.mp hl
    obtain ⟨⟨w, hw, hwblank⟩, hsolid⟩ := keeps_trimEnd (l := l) (by simpa using hblank)
    nth_rewrite 1 [hw]
    exact trimmedLines_append (h l hmem) hsolid (List.all_eq_true.mpr hwblank)

theorem sourceLines_trimLines (t : Text) : t.trimLines.sourceLines = t.trimmedLines := by
  have hbreaks : ∀ c ∈ t.trimLines, c.isNewline = c.isLineBreak := by
    intro c hc
    rw [Bool.eq_iff_iff]
    refine ⟨Code.isLineBreak_of_isNewline, fun hbreak => ?_⟩
    rw [(isTrimmed_trimLines t).breaks c hc hbreak]
    rfl
  rw [sourceLines, linesAt_congr hbreaks, linesAt_isLineBreak, lines_trimLines]

end Text

/-- Trimming the lines of a text cuts each line of the source at the separators that are neither line
feed nor carriage return, too. So the lines of what comes out are the lines of the source that are
not blank, without the white space at their ends, if and only if no such separator stands in front
of something else in its line. -/
theorem process_trimLines_sourceLines {σ : Type} (uri : Text) (type : ResourceType)
    (minimize : Bool) (t : Text) (m : σ) :
    ∃ out : Text, Builtin.trimLines.stage.process ⟨uri, type, minimize⟩ t m =
        ⟨.ok (.text out), m, []⟩ ∧
      out.sourceLines = t.sourceLines.flatMap Text.trimmedLines ∧
      (out.sourceLines = (t.sourceLines.filter (!·.isBlank)).map Text.trimEnd ↔
        ∀ l ∈ t.sourceLines, l.trimEnd.IsLine) := by
  refine ⟨t.trimLines, ?_, ?_, ?_⟩
  · cases type <;> cases minimize <;> rfl
  · rw [Text.sourceLines_trimLines, Text.trimmedLines_eq_flatMap]
  · rw [Text.sourceLines_trimLines, Text.trimmedLines_eq_map_iff]

theorem not_sourceLines_separator :
    Builtin.trimLines.stage.process ⟨"a.js", .js, true⟩ "x = \"a\u2028b\"" () =
        ⟨.ok (.text "x = \"a\nb\""), (), []⟩ ∧
      Text.sourceLines "x = \"a\nb\"" ≠
        ((Text.sourceLines "x = \"a\u2028b\"").filter (!·.isBlank)).map Text.trimEnd :=
  ⟨rfl, by decide⟩

end WebLint
