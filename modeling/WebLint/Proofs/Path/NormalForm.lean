import WebLint.Proofs.Path
import WebLint.Proofs.Text.Lines

namespace WebLint

namespace Path

/-- The components of a path text are the pieces between its slashes, save empty ones and single
dots. Two dots are a component like any other. -/
def components (t : Text) : List Text :=
  (Text.splitOn slash t).filter fun c => c ≠ [] ∧ c ≠ [dot]

def leadingSlashes (t : Text) : Nat :=
  (t.takeWhile (· = slash)).length

/-- `t` is the normal form of the path text `path`, one that has components. -/
structure IsNormalForm (path t : Text) : Prop where
  components_eq : components t = components path
  leadingSlashes_eq :
    leadingSlashes t = if leadingSlashes path ≤ 2 then leadingSlashes path else 1
  single : ¬ [slash, slash] <:+: t.dropWhile (· = slash)
  dot_not_mem : [dot] ∉ Text.splitOn slash t
  getLast?_ne : t.getLast? ≠ some slash

variable {p : Path} {t s : Text}

theorem parts_ofText (t : Text) : (ofText t).parts = components t := by
  refine List.filter_congr fun c _ => ?_
  rw [isPart, Bool.eq_iff_iff]
  simp

theorem components_text (h : p.IsNormal) : components p.text = p.parts := by
  rw [← parts_ofText, ofText_text h]

theorem components_replicate_append (n : Nat) (t : Text) :
    components (List.replicate n slash ++ t) = components t := by
  have hnil : (List.replicate n ([] : Text)).filter (fun c => c ≠ [] ∧ c ≠ [dot]) = [] := by
    rw [List.filter_eq_nil_iff]
    intro c hc
    simp [List.eq_of_mem_replicate hc]
  rw [components, Text.splitOn_replicate_append, List.filter_append, hnil]
  rfl

theorem takeWhile_slash (t : Text) :
    t.takeWhile (· = slash) = List.replicate (leadingSlashes t) slash := by
  refine List.eq_replicate_iff.mpr ⟨rfl, fun c hc => ?_⟩
  simpa using List.mem_takeWhile_imp hc

theorem replicate_append_dropWhile (t : Text) :
    List.replicate (leadingSlashes t) slash ++ t.dropWhile (· = slash) = t := by
  rw [← takeWhile_slash, List.takeWhile_append_dropWhile]

/-! ### The text of a path -/

theorem text_root_ofText (t : Text) :
    (Root.ofText t).text =
      List.replicate (if leadingSlashes t ≤ 2 then leadingSlashes t else 1) slash := by
  rw [Root.ofText, ← leadingSlashes]
  generalize leadingSlashes t = n
  obtain _ | _ | _ | n := n
  · rfl
  · rfl
  · rfl
  · rw [if_neg (by omega)]
    rfl

/-- The text of a path that is not empty: the root, then the components with slashes between. -/
theorem text_ofText (h : components t ≠ []) : (ofText t).text =
    List.replicate (if leadingSlashes t ≤ 2 then leadingSlashes t else 1) slash ++
      Text.join [slash] (components t) := by
  have hparts : ¬ ((ofText t).root = .none ∧ (ofText t).parts = []) := by
    rw [parts_ofText]
    exact fun hempty => h hempty.2
  rw [text, if_neg hparts, parts_ofText, ← text_root_ofText]
  rfl

theorem IsNormal.nil_not_mem (h : p.IsNormal) : [] ∉ p.parts :=
  fun hmem => nomatch (h _ hmem).1

theorem IsNormal.dot_not_mem (h : p.IsNormal) : [dot] ∉ p.parts :=
  fun hmem => nomatch (h _ hmem).1

theorem IsNormal.splitOn_join (h : p.IsNormal) (hne : p.parts ≠ []) :
    Text.splitOn slash (Text.join [slash] p.parts) = p.parts :=
  Text.splitOn_join hne fun t ht => (h t ht).2

theorem IsNormal.dropWhile_join (h : p.IsNormal) :
    (Text.join [slash] p.parts).dropWhile (· = slash) = Text.join [slash] p.parts := by
  have hcut := @List.takeWhile_append_dropWhile _ (· = slash) (Text.join [slash] p.parts)
  rwa [h.takeWhile_join, List.nil_append] at hcut

/-- The text that a path is written as is the normal form of the text that it was read from. -/
theorem isNormalForm_text (h : components t ≠ []) : IsNormalForm t (ofText t).text := by
  have hnormal := isNormal_ofText t
  have htext := text_ofText h
  rw [← parts_ofText] at h htext
  have hsplit := hnormal.splitOn_join h
  have hnil := hnormal.nil_not_mem
  rw [← hsplit, Text.nil_mem_splitOn_iff, not_or, not_or, not_or] at hnil
  obtain ⟨hne, -, hlast, hdouble⟩ := hnil
  generalize hn : (if leadingSlashes t ≤ 2 then leadingSlashes t else 1) = n at htext
  have hslashes : ∀ c ∈ List.replicate n slash, decide (c = slash) = true :=
    fun c hc => decide_eq_true (List.eq_of_mem_replicate hc)
  constructor
  · rw [components_text hnormal, parts_ofText]
  · rw [hn, htext, leadingSlashes, List.takeWhile_append_of_pos hslashes, hnormal.takeWhile_join,
      List.append_nil, List.length_replicate]
  · rw [htext, List.dropWhile_append_of_pos hslashes, hnormal.dropWhile_join]
    exact hdouble
  · rw [htext, Text.splitOn_replicate_append, hsplit, List.mem_append, not_or]
    exact ⟨fun hmem => List.cons_ne_nil _ _ (List.eq_of_mem_replicate hmem), hnormal.dot_not_mem⟩
  · rw [htext, List.getLast?_append_of_ne_nil _ hne]
    exact hlast

theorem isSurrogate_of_components_eq (h : components s = components t)
    (ht : ∀ c ∈ t, c.isSurrogate = false) : ∀ c ∈ s, c.isSurrogate = false := by
  intro c hc
  rw [← Text.join_splitOn slash s] at hc
  obtain hc | ⟨p, hp, hcp⟩ := Text.mem_join hc
  · rw [List.mem_singleton.mp hc]
    rfl
  · by_cases hdot : p = [dot]
    · rw [hdot] at hcp
      rw [List.mem_singleton.mp hcp]
      rfl
    · have hmem : p ∈ components s :=
        List.mem_filter.mpr ⟨hp, decide_eq_true ⟨List.ne_nil_of_mem hcp, hdot⟩⟩
      rw [h] at hmem
      exact ht c (Text.mem_of_mem_splitOn (List.mem_of_mem_filter hmem) hcp)

theorem components_text_ofText (t : Text) : components (ofText t).text = components t := by
  rw [components_text (isNormal_ofText t), parts_ofText]

/-! ### There is but one normal form -/

theorem IsNormalForm.eq_join (h : IsNormalForm s t) (hne : components s ≠ []) :
    t = List.replicate (leadingSlashes t) slash ++ Text.join [slash] (components t) := by
  have hcut := replicate_append_dropWhile t
  have hcomponents : components t = components (t.dropWhile (· = slash)) := by
    rw [← components_replicate_append (leadingSlashes t) (t.dropWhile (· = slash)), hcut]
  have hrest : t.dropWhile (· = slash) ≠ [] := by
    intro hnil
    rw [← h.components_eq, hcomponents, hnil] at hne
    exact hne rfl
  -- No piece behind the slashes in front is dropped, so joining the components gives all of it.
  have hkept : components (t.dropWhile (· = slash)) =
      Text.splitOn slash (t.dropWhile (· = slash)) := by
    refine List.filter_eq_self.mpr fun c hc => ?_
    rw [decide_eq_true_iff]
    constructor
    · rintro rfl
      obtain hnil | hhead | hlast | hdouble := Text.nil_mem_splitOn_iff.mp hc
      · exact hrest hnil
      · have hnot := List.head?_dropWhile_not (· = slash) t
        rw [hhead] at hnot
        simp at hnot
      · apply h.getLast?_ne
        rw [← hcut, List.getLast?_append_of_ne_nil _ hrest]
        exact hlast
      · exact h.single hdouble
    · rintro rfl
      apply h.dot_not_mem
      rw [← hcut, Text.splitOn_replicate_append]
      exact List.mem_append_right _ hc
  rw [hcomponents, hkept, Text.join_splitOn, hcut]

theorem isNormalForm_iff (hne : components s ≠ []) :
    IsNormalForm s t ↔ t = (ofText s).text := by
  constructor
  · intro h
    rw [h.eq_join hne, h.components_eq, h.leadingSlashes_eq, text_ofText hne]
  · rintro rfl
    exact isNormalForm_text hne

end Path

end WebLint
