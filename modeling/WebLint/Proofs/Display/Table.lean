import WebLint.Display.Table
import WebLint.Proofs.Display.Wrap
import WebLint.Proofs.Text.Lines

namespace WebLint

open Text

namespace Table

variable {p : Code → Bool} {w₁ w₂ : Nat}

def rowLine (w₁ w₂ : Nat) (piece number : Text) : Text :=
  " " ++ piece.padEnd w₁ ++ "   " ++ number.padStart w₂ ++ " "

/-- The lines of a row show a text, all of it and nothing else, and a number. -/
inductive RowShows (w₁ w₂ : Nat) (t number : Text) : List Text → Prop
  | intro {piece : Text} {pieces : List Text} (hpieces : AreLines w₁ (piece :: pieces) t)
    (hnumber : number.length ≤ w₂) :
    RowShows w₁ w₂ t number (rowLine w₁ w₂ piece number :: pieces.map (rowLine w₁ w₂ · []))

theorem countP_rowLine (hp : p (Code.ofNat 0x20) = false) (piece number : Text) :
    (rowLine w₁ w₂ piece number).countP p = piece.countP p + number.countP p := by
  have hmargin : List.countP p (" " : Text) = 0 := countP_spaces hp 1
  have hgap : List.countP p ("   " : Text) = 0 := countP_spaces hp 3
  simp only [rowLine, padEnd, padStart, List.countP_append, countP_spaces hp, hmargin, hgap]
  omega

theorem countP_rowLines (hp : p (Code.ofNat 0x20) = false) (pieces : List Text) :
    (pieces.map (rowLine w₁ w₂ · [])).flatten.countP p = pieces.flatten.countP p := by
  induction pieces with
  | nil => rfl
  | cons piece pieces ih =>
    rw [List.map_cons, List.flatten_cons, List.flatten_cons, List.countP_append,
      List.countP_append, ih, countP_rowLine hp, List.countP_nil, Nat.add_zero]

theorem RowShows.countP_eq (hp : p (Code.ofNat 0x20) = false) {t number : Text}
    {lines : List Text} (h : RowShows w₁ w₂ t number lines) :
    lines.flatten.countP p = t.countP p + number.countP p := by
  obtain ⟨hpieces, -⟩ := h
  rw [← hpieces.flatten_eq, List.flatten_cons, List.flatten_cons, List.countP_append,
    List.countP_append, countP_rowLine hp, countP_rowLines hp]
  omega

/-! ### Cells side by side -/

theorem joinLines_nil (w₁ w₂ : Nat) (ls : List Text) :
    joinLines w₁ w₂ ls [] = ls.map (joinLines.line · (spaces w₂)) := by
  induction ls with
  | nil => rw [joinLines, List.map_nil]
  | cons l ls ih => rw [joinLines, ih, List.map_cons]

theorem rightLines_of_isVisible {number : Text} (h : number.IsVisible)
    (hfits : number.length ≤ w₂) : rightLines w₂ number = [number.padStart w₂] := by
  have hcells : number.cells ≤ w₂ := (cells_of_isVisible h).symm ▸ hfits
  have hbare : number.dropEndWhile Code.isBlank = number := dropEndWhile_of_forall_not h.isSolid
  rw [rightLines, wrap_of_isSolid h.isSolid, if_pos hcells, List.map_singleton, hbare, abridge,
    if_neg (Nat.not_lt.mpr hcells)]

/-- The lines of a row: the number stands on the first of them. -/
theorem rowLines_eq {t number : Text} (hnumber : number.IsVisible) (hfits : number.length ≤ w₂)
    {piece : Text} {pieces : List Text} (hwrap : t.wrap w₁ = piece :: pieces) :
    rowLines w₁ w₂ (t, number) = rowLine w₁ w₂ (piece.crop w₁) number ::
      (pieces.map (crop w₁)).map (rowLine w₁ w₂ · []) := by
  have hblank : padStart w₂ [] = spaces w₂ := List.append_nil _
  rw [rowLines, leftLines, hwrap, rightLines_of_isVisible hnumber hfits, List.map_cons, joinLines,
    joinLines_nil, List.map_map, List.map_map]
  simp only [Function.comp_def, rowLine, hblank]
  rfl

theorem rowShows_rowLines {t number : Text} (ht : t.IsVisible) (hw₁ : 0 < w₁)
    (hnumber : number.IsVisible) (hfits : number.length ≤ w₂) :
    RowShows w₁ w₂ t number (rowLines w₁ w₂ (t, number)) := by
  have hlines := areLines_wrap ht hw₁
  obtain ⟨piece, pieces, hwrap⟩ := List.exists_cons_of_ne_nil (wrap_ne_nil ht.isSolid w₁)
  rw [hwrap] at hlines
  have hcrop : ∀ l ∈ piece :: pieces, crop w₁ l = l := by
    intro l hl
    have hcells := cells_of_isVisible (ht.of_areLines hlines l hl)
    rw [crop, hcells, if_neg (Nat.not_lt.mpr (hlines.length_le l hl))]
  obtain ⟨hpiece, hpieces⟩ := List.forall_mem_cons.mp hcrop
  have hsame : pieces.map (crop w₁) = pieces.map id := List.map_congr_left hpieces
  rw [rowLines_eq hnumber hfits hwrap, hpiece, hsame, List.map_id]
  exact .intro hlines hfits

theorem countP_rowLines_le (hp : p (Code.ofNat 0x20) = false) {t number : Text} (ht : t.IsSolid)
    (hnumber : number.IsVisible) (hfits : number.length ≤ w₂) :
    (rowLines w₁ w₂ (t, number)).flatten.countP p ≤ t.countP p + number.countP p := by
  obtain ⟨piece, pieces, hwrap⟩ := List.exists_cons_of_ne_nil (wrap_ne_nil ht w₁)
  have hlines : (t.wrap w₁).flatten.countP p ≤ t.countP p := countP_wrap_le ht
  have hpiece := countP_crop_le hp w₁ piece
  have hpieces := countP_flatten_map_le (countP_crop_le hp w₁) pieces
  rw [hwrap, List.flatten_cons, List.countP_append] at hlines
  rw [rowLines_eq hnumber hfits hwrap, List.flatten_cons, List.countP_append, countP_rowLine hp,
    countP_rowLines hp]
  omega

/-! ### Widths -/

theorem lineWidth_of_isVisible {t : Text} (h : t.IsVisible) : lineWidth t = t.length := by
  by_cases hne : t = []
  · subst hne
    rfl
  · have hline : IsLine t := fun c hc => (h c hc).isLineBreak
    rw [lineWidth, lines_of_isLine hline hne, List.map_singleton, cells_of_isVisible h]
    exact Nat.zero_max _

theorem le_foldl_max {n k : Nat} {ns : List Nat} (h : n ≤ k ∨ n ∈ ns) : n ≤ ns.foldl max k := by
  induction ns generalizing k with
  | nil => simpa using h
  | cons m ns ih =>
    rw [List.foldl_cons]
    apply ih
    obtain hk | hm := h
    · exact .inl (Nat.le_trans hk (Nat.le_max_left k m))
    · obtain rfl | hns := List.mem_cons.mp hm
      · exact .inl (Nat.le_max_right k n)
      · exact .inr hns

theorem foldl_max_le {n k : Nat} {ns : List Nat} (hk : k ≤ n) (h : ∀ m ∈ ns, m ≤ n) :
    ns.foldl max k ≤ n := by
  induction ns generalizing k with
  | nil => exact hk
  | cons m ns ih =>
    obtain ⟨hm, hns⟩ := List.forall_mem_cons.mp h
    exact ih (Nat.max_le.mpr ⟨hk, hm⟩) hns

theorem le_columnWidth {n : Nat} (hn : n ≤ screenWidth - 2) {t : Text} {texts : List Text}
    (ht : t ∈ texts) (h : n ≤ lineWidth t) : n ≤ columnWidth texts := by
  have hmax : lineWidth t ≤ (texts.map lineWidth).foldl max 0 :=
    le_foldl_max (.inr (List.mem_map_of_mem ht))
  exact Nat.le_min.mpr ⟨Nat.le_trans h hmax, hn⟩

theorem columnWidth_le {n : Nat} {texts : List Text} (h : ∀ t ∈ texts, lineWidth t ≤ n) :
    columnWidth texts ≤ n := by
  refine Nat.le_trans (Nat.min_le_left _ _) (foldl_max_le (Nat.zero_le n) ?_)
  exact List.forall_mem_map.mpr h

/-- Numbers of up to 74 digits have room, and they leave some for the first column. -/
theorem widths_spec {header : Text × Text} {rows : List (Text × Text)}
    (hfirst : 0 < lineWidth header.1)
    (hnumbers : ∀ n ∈ header.2 :: rows.map (·.2), n.IsVisible ∧ n.length ≤ 74) :
    0 < (Table.mk header rows).widths.1 ∧
      ∀ n ∈ header.2 :: rows.map (·.2), n.length ≤ (Table.mk header rows).widths.2 := by
  have hlines : ∀ n ∈ header.2 :: rows.map (·.2), lineWidth n = n.length :=
    fun n hn => lineWidth_of_isVisible (hnumbers n hn).1
  have hsecond : columnWidth (header.2 :: rows.map (·.2)) ≤ 74 :=
    columnWidth_le fun n hn => hlines n hn ▸ (hnumbers n hn).2
  have hpositive : 1 ≤ columnWidth (header.1 :: rows.map (·.1)) :=
    le_columnWidth (by decide) List.mem_cons_self hfirst
  constructor
  · refine Nat.lt_min.mpr ⟨hpositive, Nat.sub_pos_of_lt (Nat.lt_of_le_of_lt hsecond ?_)⟩
    decide
  · intro n hn
    refine le_columnWidth ?_ hn (Nat.le_of_eq (hlines n hn).symm)
    exact Nat.le_trans (hnumbers n hn).2 (by decide)

end Table

end WebLint
