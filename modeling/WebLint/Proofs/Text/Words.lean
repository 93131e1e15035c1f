import WebLint.Proofs.Text.Pieces
import WebLint.Proofs.Text.Separators

namespace WebLint.Text

variable {c : Code} {s t w : Text} {ls ws : List Text}

theorem words_cons_of_isBlank (hc : c.isBlank = true) (t : Text) : words (c :: t) = t.words := by
  rw [words.eq_def]
  exact if_pos hc

theorem words_cons_ne_nil (hc : c.isBlank = false) (t : Text) : words (c :: t) ≠ [] := by
  rw [words.eq_def]
  simp only [hc]
  grind

/-- A code point in front of a text begins a word of its own if the text does not start with one. -/
theorem words_cons_of_not (hc : c.isBlank = false) (t : Text) :
    words (c :: t) =
      if t.head?.all Code.isBlank then [c] :: t.words else t.words.modifyHead (c :: ·) := by
  rw [words.eq_def]
  simp only [hc]
  cases t with
  | nil => rfl
  | cons d t =>
    cases hw : words (d :: t) with
    | cons w ws => simp
    | nil =>
      have hd : d.isBlank = true := by
        by_contra hd
        exact words_cons_ne_nil (eq_false_of_ne_true hd) t hw
      simp [hd]

theorem words_eq_splitOnP (t : Text) :
    t.words = (t.splitOnP Code.isBlank).filter (!List.isEmpty ·) := by
  induction t with
  | nil => rfl
  | cons c t ih =>
    rw [List.splitOnP_cons_eq_if_modifyHead]
    cases hc : c.isBlank with
    | true =>
      rw [words_cons_of_isBlank hc, ih]
      rfl
    | false =>
      rw [words_cons_of_not hc, ih]
      -- The piece that goes on with the code point is empty unless the text starts with a word.
      cases t with
      | nil => rfl
      | cons d t =>
        obtain ⟨p, ps, hp⟩ := List.exists_cons_of_ne_nil (List.splitOnP_ne_nil Code.isBlank t)
        rw [List.splitOnP_cons_eq_if_modifyHead, hp]
        cases hd : d.isBlank <;> simp [hd]

/-! ### Words and white space -/

theorem words_append_cons (hc : c.isBlank = true) (s t : Text) :
    words (s ++ c :: t) = s.words ++ t.words := by
  rw [words_eq_splitOnP, List.splitOnP_append_cons s t hc, List.filter_append, ← words_eq_splitOnP,
    ← words_eq_splitOnP]

theorem words_isBlank_append (hs : s.isBlank = true) (t : Text) : words (s ++ t) = t.words := by
  induction s with
  | nil => rfl
  | cons c s ih =>
    rw [isBlank, List.all_cons, Bool.and_eq_true] at hs
    rw [List.cons_append, words_cons_of_isBlank hs.1, ih hs.2]

theorem words_of_isBlank (ht : t.isBlank = true) : t.words = [] := by
  rw [← List.append_nil t, words_isBlank_append ht]
  rfl

theorem words_append_append (hne : t ≠ []) (ht : t.isBlank = true) (s u : Text) :
    words (s ++ t ++ u) = s.words ++ u.words := by
  obtain ⟨c, t, rfl⟩ := List.exists_cons_of_ne_nil hne
  rw [isBlank, List.all_cons, Bool.and_eq_true] at ht
  rw [List.append_assoc, List.cons_append, words_append_cons ht.1, words_isBlank_append ht.2]

theorem words_append_of_isBlank (s : Text) (ht : t.isBlank = true) : words (s ++ t) = s.words := by
  by_cases hne : t = []
  · rw [hne, List.append_nil]
  · rw [← List.append_nil (s ++ t), words_append_append hne ht]
    exact List.append_nil _

def IsWord (w : Text) : Prop :=
  w ≠ [] ∧ ∀ c ∈ w, c.isBlank = false

theorem IsWord.words (h : IsWord w) : w.words = [w] := by
  rw [words_eq_splitOnP, List.splitOnP_eq_singleton h.2]
  exact List.filter_cons_of_pos (by simp [h.1])

theorem IsWord.endsSolid (h : IsWord w) : EndsSolid w :=
  ⟨_, List.getLast?_eq_some_getLast h.1, h.2 _ (List.getLast_mem h.1)⟩

theorem isWord_of_mem_words (hw : w ∈ t.words) : IsWord w := by
  induction t generalizing w with
  | nil => cases hw
  | cons c t ih =>
    cases hc : c.isBlank with
    | true =>
      rw [words_cons_of_isBlank hc] at hw
      exact ih hw
    | false =>
      rw [words_cons_of_not hc] at hw
      split at hw
      · obtain rfl | hw := List.mem_cons.mp hw
        · exact ⟨List.cons_ne_nil c [], List.forall_mem_singleton.mpr hc⟩
        · exact ih hw
      · cases hwords : words t with
        | nil =>
          rw [hwords] at hw
          cases hw
        | cons v ws =>
          rw [hwords] at ih hw
          obtain rfl | hw := List.mem_cons.mp hw
          · exact ⟨List.cons_ne_nil c v, List.forall_mem_cons.mpr ⟨hc, (ih List.mem_cons_self).2⟩⟩
          · exact ih (List.mem_cons_of_mem v hw)

theorem words_join (hc : c.isBlank = true) (ls : List Text) :
    (join [c] ls).words = ls.flatMap words := by
  induction ls with
  | nil => rfl
  | cons l ls ih =>
    by_cases hnil : ls = []
    · subst hnil
      rw [join, List.flatMap_singleton]
    · rw [join_cons hnil, List.append_assoc, List.singleton_append, words_append_cons hc, ih,
        List.flatMap_cons]

/-- Joining words by white space and taking the words of the text undo each other. -/
theorem words_join_words (hc : c.isBlank = true) (t : Text) : (join [c] t.words).words = t.words := by
  rw [words_join hc]
  calc t.words.flatMap words = t.words.flatMap fun w => [w] :=
        List.flatMap_congr fun w hw => (isWord_of_mem_words hw).words
    _ = t.words := List.flatMap_singleton' _

/-! ### Words and lines -/

theorem words_trimEnd (t : Text) : t.trimEnd.words = t.words := by
  obtain ⟨w, hw, hblank, -⟩ := exists_trimEnd t
  nth_rewrite 2 [hw]
  exact (words_append_of_isBlank _ (List.all_eq_true.mpr hblank)).symm

theorem IsBreak.ne_nil {b : Text} (h : IsBreak b) : b ≠ [] := by
  cases h <;> exact List.cons_ne_nil _ _

theorem Splits.words (h : Splits t ls) : t.words = ls.flatMap words := by
  induction h with
  | nil => rfl
  | last => rw [List.flatMap_singleton]
  | @step l b t ls _ hb _ ih =>
    rw [List.flatMap_cons, ← ih, words_append_append hb.ne_nil (List.all_eq_true.mpr hb.isBlank)]

theorem words_trimLines (t : Text) : t.trimLines.words = t.words := by
  rw [trimLines_eq, words_join (by decide), trimmedLines, List.flatMap_map, t.splits_lines.words]
  simp only [words_trimEnd]
  exact flatMap_filter_isBlank (fun _ => words_of_isBlank) t.lines

/-! ### Collapsed white space -/

def blank : Code := ' '

/-- What stands in front of the words of a text whose white space is collapsed to single blanks. -/
def lead (t : Text) : Text :=
  if t.head?.any Code.isBlank then [blank] else []

/-- What white space is collapsed to: one blank between words, and perhaps one at either end. -/
theorem collapseBlanks_eq (t : Text) :
    ∃ post : Text, post.isBlank = true ∧
      (t.words = [] ∧ t.collapseBlanks = post ∨
        t.words ≠ [] ∧ t.collapseBlanks = t.lead ++ join [blank] t.words ++ post) := by
  fun_induction collapseBlanks t with
  | case1 => exact ⟨[], rfl, .inl ⟨rfl, rfl⟩⟩
  | case2 c hc => exact ⟨[blank], rfl, .inl ⟨words_cons_of_isBlank hc [], rfl⟩⟩
  | case3 c hc d t hd ih =>
    rw [words_cons_of_isBlank hc]
    have hlead : lead (c :: d :: t) = lead (d :: t) := by simp [lead, hc, hd]
    rw [hlead]
    exact ih
  | case4 c hc d t hd ih =>
    have hd : d.isBlank = false := eq_false_of_ne_true hd
    obtain ⟨post, hpost, ⟨hnil, -⟩ | ⟨hne, h⟩⟩ := ih
    · exact absurd hnil (words_cons_ne_nil hd t)
    · have hlead : lead (d :: t) = [] := by simp [lead, hd]
      refine ⟨post, hpost, .inr ?_⟩
      rw [words_cons_of_isBlank hc]
      refine ⟨hne, ?_⟩
      rw [h, hlead]
      simp [lead, hc]
      rfl
  | case5 c t hc ih =>
    have hc : c.isBlank = false := eq_false_of_ne_true hc
    have hlead : lead (c :: t) = [] := by simp [lead, hc]
    obtain ⟨post, hpost, h⟩ := ih
    refine ⟨post, hpost, .inr ⟨words_cons_ne_nil hc t, ?_⟩⟩
    rw [hlead, words_cons_of_not hc]
    cases t with
    | nil =>
      obtain ⟨-, h⟩ | ⟨hne, -⟩ := h
      · rw [h]
        rfl
      · exact absurd rfl hne
    | cons d t =>
      cases hd : d.isBlank with
      | true =>
        rw [if_pos (by simp [hd])]
        obtain ⟨hnil, h⟩ | ⟨hne, h⟩ := h
        · rw [hnil, h]
          rfl
        · have hblank : lead (d :: t) = [blank] := by simp [lead, hd]
          rw [h, hblank, join_cons hne]
          simp
      | false =>
        rw [if_neg (by simp [hd])]
        obtain ⟨hnil, -⟩ | ⟨hne, h⟩ := h
        · exact absurd hnil (words_cons_ne_nil hd t)
        · have hnone : lead (d :: t) = [] := by simp [lead, hd]
          obtain ⟨w, ws, hw⟩ := List.exists_cons_of_ne_nil hne
          rw [h, hnone, hw, List.modifyHead_cons, join_cons_code]
          rfl

theorem endsSolid_join_words (sep : Text) (h : t.words ≠ []) : EndsSolid (join sep t.words) :=
  endsSolid_join h fun _ hw => (isWord_of_mem_words hw).endsSolid

/-- What collapsing the white space of a text gives depends on its words only. -/
theorem collapseWhiteSpace_eq (t : Text) : t.collapseWhiteSpace = join [blank] t.words := by
  obtain ⟨post, hpost, ⟨hnil, h⟩ | ⟨hne, h⟩⟩ := t.collapseBlanks_eq
  · have hdrop : post.dropWhile Code.isBlank = [] := by
      rw [List.dropWhile_eq_nil_iff]
      exact List.all_eq_true.mp hpost
    rw [collapseWhiteSpace, h, hnil, trim, trimWhile, hdrop]
    rfl
  · have hsolid : EndsSolid (join [blank] t.words) := endsSolid_join_words [blank] hne
    have hlead : ∀ c ∈ t.lead, c.isBlank = true := by
      have hblank : blank.isBlank = true := by decide
      unfold lead
      split <;> simp [hblank]
    obtain ⟨w, ws, hw⟩ := List.exists_cons_of_ne_nil hne
    obtain ⟨hwne, hwsolid⟩ := isWord_of_mem_words (hw ▸ List.mem_cons_self : w ∈ t.words)
    obtain ⟨c, w, rfl⟩ := List.exists_cons_of_ne_nil hwne
    have hc : c.isBlank = false := hwsolid c List.mem_cons_self
    have hstart : join [blank] t.words = c :: join [blank] (w :: ws) := by
      rw [hw, join_cons_code]
    have hdrop : (t.lead ++ join [blank] t.words ++ post).dropWhile Code.isBlank =
        join [blank] t.words ++ post := by
      rw [List.append_assoc, List.dropWhile_append_of_pos hlead, hstart, List.cons_append,
        List.dropWhile_cons_of_neg (by simp [hc])]
    calc t.collapseWhiteSpace = trimEnd (join [blank] t.words ++ post) := by
          rw [collapseWhiteSpace, h, trim, trimWhile, hdrop, trimEnd]
      _ = join [blank] t.words := by rw [trimEnd_append_of_isBlank _ hpost, hsolid.trimEnd]

theorem isTrimmed_join_words (t : Text) : IsTrimmed (join [blank] t.words) := by
  have hline : IsLine (join [blank] t.words) := by
    intro c hc
    obtain hc | ⟨w, hw, hc⟩ := mem_join hc
    · rw [List.mem_singleton.mp hc]
      decide
    · exact Code.isLineBreak_eq_false ((isWord_of_mem_words hw).2 c hc)
  by_cases hne : t.words = []
  · rw [hne]
    exact isTrimmed_trimLines []
  · have hsolid : EndsSolid (join [blank] t.words) := endsSolid_join_words [blank] hne
    refine ⟨fun c hc hbreak => ?_, fun l hl => ?_, fun _ => hsolid⟩
    · cases (hline c hc).symm.trans hbreak
    · rw [lines_of_isLine hline hsolid.ne_nil, List.mem_singleton] at hl
      rw [hl]
      exact hsolid

end WebLint.Text
