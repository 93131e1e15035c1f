import WebLint.Proofs.Chain.Named
import WebLint.Proofs.Comments.ScriptEnd
import WebLint.Proofs.Text.Words

namespace WebLint

namespace Text

variable {t : Text}

/-! ### The last line -/

theorem join_concat_append (sep l s : Text) (ls : List Text) :
    join sep (ls ++ [l ++ s]) = join sep (ls ++ [l]) ++ s := by
  induction ls with
  | nil => rfl
  | cons k ls ih =>
    have hne : ∀ l : Text, ls ++ [l] ≠ [] := fun l => List.append_ne_nil_of_right_ne_nil ls (by simp)
    rw [List.cons_append, join_cons (hne _), ih, List.cons_append, join_cons (hne _),
      List.append_assoc _ _ s]

theorem trimmedLines_append_break {b : Text} (hb : IsBreak b) (l t : Text) :
    trimmedLines (l ++ b ++ t) = l.trimmedLines ++ t.trimmedLines := by
  -- At each code point of the break the text is cut, and nothing stands between the two of a pair.
  have hcut : ∀ {c : Code}, c.isLineBreak = true → ∀ s u : Text,
      trimmedLines (s ++ c :: u) = s.trimmedLines ++ u.trimmedLines := by
    intro c hc s u
    simp only [trimmedLines_eq_splitOnP, List.splitOnP_append_cons s u hc, List.filter_append,
      List.map_append]
  cases hb with
  | code hc => rw [List.append_assoc, List.singleton_append, hcut hc]
  | @pair c d hc hd =>
    have hreturn : c.isLineBreak = true := by simp [Code.isLineBreak, hc]
    have hfeed : d.isLineBreak = true := by simp [Code.isLineBreak, hd]
    rw [List.append_assoc, List.cons_append, List.singleton_append, hcut hreturn,
      ← List.nil_append (d :: t), hcut hfeed]
    rfl

theorem Splits.exists_last {ls : List Text} (h : Splits t ls) (ht : EndsSolid t) :
    ∃ ks l, IsLine l ∧ EndsSolid l ∧
      ∀ s, trimmedLines (t ++ s) = ks ++ trimmedLines (l ++ s) := by
  induction h with
  | nil => exact absurd rfl ht.ne_nil
  | @last l hl _ => exact ⟨[], l, hl, ht, fun s => rfl⟩
  | @step l b t ls _ hb _ ih =>
    have hne : t ≠ [] := by
      rintro rfl
      rw [List.append_nil, endsSolid_append_iff hb.ne_nil] at ht
      cases ht.isBlank.symm.trans (List.all_eq_true.mpr hb.isBlank)
    obtain ⟨ks, k, hk, hsolid, h⟩ := ih ((endsSolid_append_iff hne _).mp ht)
    refine ⟨l.trimmedLines ++ ks, k, hk, hsolid, fun s => ?_⟩
    rw [List.append_assoc (l ++ b), trimmedLines_append_break hb, h, List.append_assoc]

theorem trimLines_append_of_isBlank (ht : EndsSolid t) {s : Text} (hs : s.isBlank = true) :
    trimLines (t ++ s) = t.trimLines := by
  obtain ⟨ks, l, hl, hsolid, h⟩ := t.splits_lines.exists_last ht
  have hnone := h []
  rw [List.append_nil, trimmedLines_append hl hsolid rfl] at hnone
  rw [trimLines_eq, trimLines_eq, h, trimmedLines_append hl hsolid hs, hnone]

/-- A code point that is no white space goes on with the last line of a text that ends solid. -/
theorem trimLines_append_code (ht : EndsSolid t) {c : Code} (hc : c.isBlank = false) :
    trimLines (t ++ [c]) = t.trimLines ++ [c] := by
  obtain ⟨ks, l, hl, hsolid, h⟩ := t.splits_lines.exists_last ht
  have hline : IsLine (l ++ [c]) := by
    intro d hd
    obtain hd | hd := List.mem_append.mp hd
    · exact hl d hd
    · rw [List.mem_singleton.mp hd]
      exact Code.isLineBreak_eq_false hc
  have hend : EndsSolid (l ++ [c]) := ⟨c, List.getLast?_concat, hc⟩
  have hnone := h []
  have hone := h [c]
  rw [List.append_nil, trimmedLines_append hl hsolid rfl] at hnone
  rw [← List.append_nil (l ++ [c]), trimmedLines_append hline hend rfl] at hone
  rw [trimLines_eq, trimLines_eq, hone, hnone, join_concat_append]

/-! ### The last code point -/

theorem getLast?_filter (h : t ≠ [] → EndsSolid t) :
    (t.filter (!·.isBlank)).getLast? = t.getLast? := by
  rcases List.eq_nil_or_concat t with rfl | ⟨s, c, rfl⟩
  · rfl
  · obtain ⟨d, hd, hblank⟩ := h (by simp)
    rw [List.concat_eq_append, List.getLast?_concat, Option.some.injEq] at hd
    subst hd
    rw [List.concat_eq_append, List.filter_append, List.filter_cons_of_pos (by simp [hblank]),
      List.filter_nil, List.getLast?_concat, List.getLast?_concat]

theorem endsSolid_trimEnd (h : t.trimEnd ≠ []) : EndsSolid t.trimEnd := by
  obtain ⟨-, -, -, hlast⟩ := t.exists_trimEnd
  exact ⟨_, List.getLast?_eq_some_getLast h, hlast _ (List.getLast?_eq_some_getLast h)⟩

/-- The last code point of a text that is no white space is the last one of its trimmed lines. -/
theorem getLast?_trimLines (t : Text) : t.trimLines.getLast? = t.trimEnd.getLast? := by
  rw [← getLast?_filter t.isTrimmed_trimLines.last, filter_trimLines, ← filter_trimEnd,
    getLast?_filter endsSolid_trimEnd]

/-! ### Semicolons -/

theorem trimEnd_trimLines (t : Text) : t.trimLines.trimEnd = t.trimLines := by
  by_cases hne : t.trimLines = []
  · rw [hne]
    rfl
  · exact (t.isTrimmed_trimLines.last hne).trimEnd

theorem exists_trimEnd_eq_of_getLast? {c : Code} (h : t.getLast? = some c) (ht : t.trimEnd = t) :
    ∃ body, t.trimEnd = body ++ [c] := by
  obtain ⟨body, hbody⟩ := List.getLast?_eq_some_iff.mp h
  exact ⟨body, ht.trans hbody⟩

theorem endWithSemicolon_trimLines (t : Text) :
    t.trimLines.endWithSemicolon = t.endWithSemicolon.trimLines := by
  have hlast := t.getLast?_trimLines
  rcases List.eq_nil_or_concat t.trimEnd with hnil | ⟨(body : Text), c, hbody⟩
  · have hempty : t.trimLines = [] := by
      rw [hnil] at hlast
      exact List.getLast?_eq_none_iff.mp hlast
    rw [endWithSemicolon_of_blank hnil, hempty]
    rfl
  · rw [List.concat_eq_append] at hbody
    rw [hbody, List.getLast?_concat] at hlast
    obtain ⟨body', hbody'⟩ := exists_trimEnd_eq_of_getLast? hlast t.trimEnd_trimLines
    by_cases hc : c = semicolon
    · subst hc
      rw [endWithSemicolon_of_semicolon hbody, endWithSemicolon_of_semicolon hbody']
    · have hsolid : EndsSolid t.trimEnd := endsSolid_trimEnd (by simp [hbody])
      obtain ⟨w, hw, hblank, -⟩ := t.exists_trimEnd
      have hsame : t.trimEnd.trimLines = t.trimLines := by
        nth_rewrite 2 [hw]
        exact (trimLines_append_of_isBlank hsolid (List.all_eq_true.mpr hblank)).symm
      rw [endWithSemicolon_of_ne hbody hc, endWithSemicolon_of_ne hbody' hc, trimEnd_trimLines,
        trimLines_append_code hsolid (by decide), hsame]

theorem endWithSemicolon_again (t : Text) :
    t.endWithSemicolon.endWithSemicolon = t.endWithSemicolon := by
  rcases List.eq_nil_or_concat t.trimEnd with hnil | ⟨(body : Text), c, hbody⟩
  · rw [endWithSemicolon_of_blank hnil, endWithSemicolon_of_blank hnil]
  · rw [List.concat_eq_append] at hbody
    by_cases hc : c = semicolon
    · subst hc
      rw [endWithSemicolon_of_semicolon hbody, endWithSemicolon_of_semicolon hbody]
    · rw [endWithSemicolon_of_ne hbody hc]
      exact endWithSemicolon_of_semicolon (trimEnd_of_getLast? List.getLast?_concat (by decide))

end Text

namespace Chain

def Makes (bs : List Builtin) (r : Resource) (t out : Text) : Prop :=
  ∀ {σ : Type} (m : σ), ∃ c log, ofNames (some (bs.map fun b => .text b.name)) = .ok c ∧
    c.process (some r) (some t) m = ⟨.ok out, m, log⟩

theorem makes_transformAll (bs : List Builtin) (r : Resource) (t : Text) :
    Makes bs r t (Builtin.transformAll r bs t) := by
  intro σ m
  have hnames : List.Forall₂ Builtin.Names (bs.map Builtin.name) bs := by
    rw [List.forall₂_map_left_iff, List.forall₂_same]
    intro b _
    rw [Builtin.Names]
    cases b <;> decide
  obtain ⟨log, hrun⟩ := run_ofBuiltins r bs t m
  have hchain := ofNames_of_names (σ := σ) hnames
  rw [List.map_map] at hchain
  exact ⟨_, log, hchain, hrun⟩

theorem Makes.of_eq {bs : List Builtin} {r : Resource} {t out : Text}
    (h : Builtin.transformAll r bs t = out) : Makes bs r t out :=
  h ▸ makes_transformAll bs r t

/-- Of a stylesheet that is made smaller, collapsing white space makes its words with single blanks
between them, and so it does with lines that are trimmed before or after it, and with another turn
of its own. Of a script, a semicolon at its end and trimmed lines make the same in either order, and
a second semicolon makes no difference. -/
theorem makes_whiteSpace (uri t : Text) :
    (∀ bs ∈ [[Builtin.collapseWhiteSpace], [.trimLines, .collapseWhiteSpace],
        [.collapseWhiteSpace, .trimLines], [.collapseWhiteSpace, .collapseWhiteSpace]],
      Makes bs ⟨uri, .css, true⟩ t (Text.join " " t.words)) ∧
    ∀ minimize,
      (∃ out, Makes [.trimLines, .appendSemicolon] ⟨uri, .js, minimize⟩ t out ∧
        Makes [.appendSemicolon, .trimLines] ⟨uri, .js, minimize⟩ t out) ∧
      (∃ out, Makes [.appendSemicolon] ⟨uri, .js, minimize⟩ t out ∧
        Makes [.appendSemicolon, .appendSemicolon] ⟨uri, .js, minimize⟩ t out) := by
  have hblank : (" " : Text) = [Text.blank] := rfl
  have hcollapsed := t.collapseWhiteSpace_eq
  refine ⟨fun bs hbs => ?_, fun minimize => ⟨?_, ?_⟩⟩
  · rw [hblank]
    simp only [List.mem_cons, List.not_mem_nil, or_false] at hbs
    obtain rfl | rfl | rfl | rfl := hbs <;> apply Makes.of_eq
    · exact hcollapsed
    · show t.trimLines.collapseWhiteSpace = _
      rw [Text.collapseWhiteSpace_eq, Text.words_trimLines]
    · show t.collapseWhiteSpace.trimLines = _
      rw [hcollapsed, Text.trimLines_of_isTrimmed t.isTrimmed_join_words]
    · show t.collapseWhiteSpace.collapseWhiteSpace = _
      rw [hcollapsed, Text.collapseWhiteSpace_eq, Text.words_join_words (by decide)]
  · refine ⟨t.trimLines.endWithSemicolon, ?_, ?_⟩ <;> apply Makes.of_eq
    · cases minimize <;> rfl
    · rw [Text.endWithSemicolon_trimLines]
      cases minimize <;> rfl
  · refine ⟨t.endWithSemicolon, ?_, ?_⟩ <;> apply Makes.of_eq
    · cases minimize <;> rfl
    · rw [← Text.endWithSemicolon_again]
      cases minimize <;> rfl

example : Text.join " " (Text.words " a\x0b\x0cb  c ") = "a b c" := by
  decide

end Chain

end WebLint
