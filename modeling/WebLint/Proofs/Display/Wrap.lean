import WebLint.Display.Wrap
import WebLint.Proofs.Numeral
import WebLint.Proofs.Text.Pieces

namespace WebLint

/-- A printable code point of ASCII that is no blank. -/
def Code.IsVisible (c : Code) : Prop :=
  0x21 ≤ c.val ∧ c.val ≤ 0x7e

instance (c : Code) : Decidable c.IsVisible :=
  inferInstanceAs (Decidable (_ ∧ _))

theorem Code.IsVisible.isBlank {c : Code} (h : c.IsVisible) : c.isBlank = false := by
  obtain ⟨hlo, hhi⟩ := h
  simp [Code.isBlank, blankRanges, Ranges.has]
  omega

theorem Code.IsVisible.isSignal {c : Code} (h : c.IsVisible) : c.isSignal = false := by
  obtain ⟨hlo, hhi⟩ := h
  simp [Code.isSignal]
  omega

theorem Code.IsVisible.cells {c : Code} (h : c.IsVisible) : c.cells = 1 := by
  obtain ⟨hlo, hhi⟩ := h
  rw [Code.cells, if_neg (by omega), if_pos (by omega)]

theorem Code.IsVisible.isLineBreak {c : Code} (h : c.IsVisible) : c.isLineBreak = false := by
  obtain ⟨hlo, hhi⟩ := h
  simp [Code.isLineBreak]
  omega

namespace Text

def IsVisible (t : Text) : Prop :=
  ∀ c ∈ t, c.IsVisible

instance (t : Text) : Decidable t.IsVisible :=
  inferInstanceAs (Decidable (∀ c ∈ t, c.IsVisible))

/-- A text without white space. -/
def IsSolid (t : Text) : Prop :=
  ∀ c ∈ t, c.isBlank = false

theorem IsVisible.isSolid {t : Text} (h : t.IsVisible) : t.IsSolid :=
  fun c hc => (h c hc).isBlank

variable {width : Nat} {t : Text}

/-! ### A line of a single word -/

theorem IsSolid.not_mem (h : t.IsSolid) {c : Code} (hc : c.isBlank = true) : c ∉ t := by
  intro hm
  rw [h c hm] at hc
  cases hc

theorem expandTabs_of_isSolid (h : t.IsSolid) : t.expandTabs = t := by
  rw [expandTabs, splitOn_of_not_mem (h.not_mem (by decide))]
  rfl

theorem takeWhile_isBlank_of_isSolid (h : t.IsSolid) : t.takeWhile Code.isBlank = [] := by
  cases t with
  | nil => rfl
  | cons c t => rw [List.takeWhile_cons_of_neg (ne_true_of_eq_false (h c List.mem_cons_self))]

theorem spacedWords_of_isSolid (h : t.IsSolid) (hne : t ≠ []) : t.spacedWords = [t] := by
  have hword : t.takeWhile (!·.isBlank) = t := by
    rw [List.takeWhile_eq_self_iff]
    intro c hc
    rw [h c hc]
    rfl
  have hsplit : spacedWords.split t.length t = [t] := by
    cases t with
    | nil => exact absurd rfl hne
    | cons c t =>
      rw [List.length_cons, spacedWords.split, hword, List.drop_length, List.takeWhile_nil,
        List.append_nil, List.length_nil, Nat.add_zero, List.drop_length]
      · cases t.length <;> rfl
      · exact hne
  rw [spacedWords, takeWhile_isBlank_of_isSolid h]
  simp only [List.length_nil, List.drop_zero, hsplit, List.nil_append]

theorem dropExcess_of_isSolid (h : t.IsSolid) : dropExcess width t = t := by
  have hreverse : IsSolid t.reverse := fun c hc => h c (List.mem_reverse.mp hc)
  rw [dropExcess, takeWhile_isBlank_of_isSolid hreverse]
  simp

/-- The lines of a text without white space: itself, or what it is folded into. -/
theorem wrap_of_isSolid (h : t.IsSolid) :
    t.wrap width = if t.cells ≤ width then [t] else
      ((t.fold width).dropLast ++ [(t.fold width).getLast?.getD []]).map (dropExcess width) := by
  have hlines : splitOn lineFeed t = [t] := splitOn_of_not_mem (h.not_mem (by decide))
  have hbare : t.dropEndWhile Code.isBlank = t := dropEndWhile_of_forall_not h
  rw [wrap, hlines, List.flatMap_singleton, wrapLine, expandTabs_of_isSolid h]
  by_cases hne : t = []
  · subst hne
    exact (if_pos (Nat.zero_le width)).symm
  · rw [spacedWords_of_isSolid h hne]
    simp only [fillLines, hbare, Nat.zero_add, List.nil_append, List.isEmpty_nil, if_true]
    by_cases hcells : t.cells ≤ width
    · rw [if_pos hcells, if_pos hcells, List.map_singleton, dropExcess_of_isSolid h]
    · rw [if_neg hcells, if_neg hcells, if_pos (Nat.lt_of_not_le hcells)]

theorem wrap_ne_nil (h : t.IsSolid) (width : Nat) : t.wrap width ≠ [] := by
  rw [wrap_of_isSolid h]
  split <;> simp

/-! ### What lines hold -/

theorem flatMap_glyphsFrom (last : Option Code) (done : List Glyph) (t : Text) :
    (glyphsFrom last done t).reverse.flatMap (·.1) = done.reverse.flatMap (·.1) ++ t := by
  fun_induction glyphsFrom last done t <;> simp_all

/-- The glyphs of a text are the text. -/
theorem flatMap_glyphs (t : Text) : t.glyphs.flatMap (·.1) = t :=
  flatMap_glyphsFrom none [] t

variable {p : Code → Bool}

theorem countP_flatten_map_le {f : Text → Text} (hf : ∀ l, (f l).countP p ≤ l.countP p)
    (ls : List Text) : (ls.map f).flatten.countP p ≤ ls.flatten.countP p := by
  induction ls with
  | nil => exact Nat.le_refl _
  | cons l ls ih =>
    rw [List.map_cons, List.flatten_cons, List.flatten_cons, List.countP_append, List.countP_append]
    exact Nat.add_le_add (hf l) ih

theorem countP_foldGlyphs_le (done : Text) (cells : Nat) (gs : List Glyph) :
    (foldGlyphs width done cells gs).flatten.countP p ≤
      done.countP p + (gs.flatMap (·.1)).countP p := by
  fun_induction foldGlyphs width done cells gs with
  | case1 => exact Nat.zero_le _
  | case2 => simp
  | case3 done cells g k gs _ ih =>
    rw [List.flatten_cons, List.countP_append, List.flatMap_cons, List.countP_append]
    exact Nat.add_le_add_left ih _
  | case4 done cells g k gs _ ih =>
    rw [List.countP_append] at ih
    rw [List.flatMap_cons, List.countP_append, ← Nat.add_assoc]
    exact ih

theorem dropLast_append_getLast {ls : List Text} (h : ls ≠ []) :
    ls.dropLast ++ [ls.getLast?.getD []] = ls := by
  rw [List.getLast?_eq_some_getLast h, Option.getD_some, List.dropLast_concat_getLast h]

theorem flatten_dropLast_append (ls : List Text) :
    (ls.dropLast ++ [ls.getLast?.getD []]).flatten = ls.flatten := by
  by_cases h : ls = []
  · subst h
    rfl
  · rw [dropLast_append_getLast h]

theorem countP_dropExcess_le (l : Text) : (dropExcess width l).countP p ≤ l.countP p :=
  (List.take_sublist _ l).countP_le

/-- A text without white space has no more of a class in lines than as a whole. -/
theorem countP_wrap_le (h : t.IsSolid) : (t.wrap width).flatten.countP p ≤ t.countP p := by
  rw [wrap_of_isSolid h]
  split
  · rw [List.flatten_singleton]
  · have hfold : (t.fold width).flatten.countP p ≤
        ([] : Text).countP p + (t.glyphs.flatMap (·.1)).countP p :=
      countP_foldGlyphs_le [] 0 t.glyphs
    rw [List.countP_nil, Nat.zero_add, flatMap_glyphs] at hfold
    refine Nat.le_trans (countP_flatten_map_le countP_dropExcess_le _) ?_
    rw [flatten_dropLast_append]
    exact hfold

theorem countP_spaces (hp : p (Code.ofNat 0x20) = false) (n : Nat) : (spaces n).countP p = 0 := by
  rw [spaces, List.countP_replicate, hp]
  rfl

theorem countP_cutGlyphs_le (hp : p (Code.ofNat 0x20) = false) (n : Nat) (gs : List Glyph) :
    (cutGlyphs n gs).countP p ≤ (gs.flatMap (·.1)).countP p := by
  fun_induction cutGlyphs n gs with
  | case1 n => rw [countP_spaces hp]; exact Nat.zero_le _
  | case2 => exact Nat.zero_le _
  | case3 => rw [countP_spaces hp]; exact Nat.zero_le _
  | case4 n g k gs _ _ ih =>
    rw [List.countP_append, List.flatMap_cons, List.countP_append]
    exact Nat.add_le_add_left ih _

theorem countP_crop_le (hp : p (Code.ofNat 0x20) = false) (n : Nat) (t : Text) :
    (t.crop n).countP p ≤ t.countP p := by
  have hcut := countP_cutGlyphs_le hp n t.glyphs
  rw [flatMap_glyphs] at hcut
  rw [crop, fit]
  split
  · split
    · exact Nat.le_refl _
    · exact hcut
  · exact Nat.le_refl _

/-! ### Visible texts -/

theorem cellsFrom_of_isVisible (h : t.IsVisible) (last : Option Code) :
    cellsFrom last t = t.length := by
  induction t generalizing last with
  | nil => rfl
  | cons c t ih =>
    obtain ⟨hlo, hhi⟩ := h c List.mem_cons_self
    rw [cellsFrom.eq_def]
    dsimp only
    rw [if_neg (by omega), if_neg (by omega), (h c List.mem_cons_self).cells,
      ih fun d hd => h d (List.mem_cons_of_mem _ hd), List.length_cons, Nat.add_comm]

theorem cells_of_isVisible (h : t.IsVisible) : t.cells = t.length :=
  cellsFrom_of_isVisible h none

theorem glyphsFrom_of_isVisible (h : t.IsVisible) (last : Option Code) (done : List Glyph) :
    glyphsFrom last done t = (t.map fun c => ([c], 1)).reverse ++ done := by
  induction t generalizing last done with
  | nil => rfl
  | cons c t ih =>
    have hcells := (h c List.mem_cons_self).cells
    have hrest := ih (fun d hd => h d (List.mem_cons_of_mem _ hd)) (some c) (([c], 1) :: done)
    obtain ⟨hlo, hhi⟩ := h c List.mem_cons_self
    have hjoiner : c.val ≠ 0x200d := by omega
    have hselector : c.val ≠ 0xfe0f := by omega
    rw [List.map_cons, List.reverse_cons, List.append_assoc, List.singleton_append, ← hrest]
    cases done with
    | nil => simp [glyphsFrom, hjoiner, hselector, hcells]
    | cons g done =>
      have hne : c.cells ≠ 0 := hcells ▸ Nat.one_ne_zero
      rw [glyphsFrom.eq_def]
      dsimp only
      rw [if_neg hjoiner, if_neg hselector, if_neg hne, hcells]

theorem glyphs_of_isVisible (h : t.IsVisible) : t.glyphs = t.map fun c => ([c], 1) := by
  rw [glyphs, glyphsFrom_of_isVisible h, List.append_nil, List.reverse_reverse]

/-- Lines of at most so many code points, which are a text together. -/
structure AreLines (width : Nat) (ls : List Text) (t : Text) : Prop where
  flatten_eq : ls.flatten = t
  length_le : ∀ l ∈ ls, l.length ≤ width

theorem areLines_foldGlyphs (hwidth : 0 < width) {done : Text} (hdone : done.length ≤ width)
    (t : Text) :
    AreLines width (foldGlyphs width done done.length (t.map fun c => ([c], 1))) (done ++ t) := by
  induction t generalizing done with
  | nil =>
    rw [List.map_nil, foldGlyphs, List.append_nil]
    split
    · next hlength =>
      obtain rfl := List.eq_nil_of_length_eq_zero hlength
      exact ⟨rfl, by simp⟩
    · exact ⟨List.flatten_singleton, by simpa using hdone⟩
  | cons c t ih =>
    rw [List.map_cons, foldGlyphs]
    split
    · have hone : ([c] : Text).length ≤ width := hwidth
      obtain ⟨hflatten, hlength⟩ := ih hone
      refine ⟨?_, List.forall_mem_cons.mpr ⟨hdone, hlength⟩⟩
      rw [List.flatten_cons]
      exact congrArg (done ++ ·) hflatten
    · next hfits =>
      have hmore : (done ++ [c]).length ≤ width := by
        rw [List.length_append]
        exact Nat.le_of_not_lt hfits
      have hlines := ih hmore
      rw [List.append_assoc, List.length_append] at hlines
      exact hlines

theorem IsVisible.of_areLines (h : t.IsVisible) {ls : List Text} (hls : AreLines width ls t) :
    ∀ l ∈ ls, l.IsVisible := by
  intro l hl c hc
  rw [← hls.flatten_eq] at h
  exact h c (List.mem_flatten.mpr ⟨l, hl, hc⟩)

/-- A visible text is all in its lines. -/
theorem areLines_wrap (h : t.IsVisible) (hwidth : 0 < width) :
    AreLines width (t.wrap width) t := by
  rw [wrap_of_isSolid h.isSolid, cells_of_isVisible h]
  split
  · next hlength => exact ⟨List.flatten_singleton, by simpa using hlength⟩
  · next hlength =>
    have hfold : AreLines width (t.fold width) t := by
      have hempty : ([] : Text).length ≤ width := Nat.zero_le width
      have hlines := areLines_foldGlyphs hwidth hempty t
      rwa [← glyphs_of_isVisible h] at hlines
    have hne : t.fold width ≠ [] := by
      intro hnil
      have hempty := hfold.flatten_eq
      rw [hnil] at hempty
      rw [← hempty] at hlength
      exact hlength (Nat.zero_le width)
    have hsame : (t.fold width).map (dropExcess width) = (t.fold width).map id :=
      List.map_congr_left fun l hl => dropExcess_of_isSolid (h.of_areLines hfold l hl).isSolid
    rw [List.map_id] at hsame
    rw [dropLast_append_getLast hne, hsame]
    exact hfold

end Text

end WebLint
