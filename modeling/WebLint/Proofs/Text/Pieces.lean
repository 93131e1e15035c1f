import Mathlib.Data.List.Induction
import WebLint.Text

namespace WebLint.Text

variable {sep : Code} {t p : Text}

theorem splitOn_cons_sep (t : Text) : splitOn sep (sep :: t) = [] :: splitOn sep t :=
  if_pos rfl

theorem splitOn_eq (sep : Code) (t : Text) : splitOn sep t = List.splitOn sep t := by
  induction t with
  | nil => exact (List.splitOn_nil sep).symm
  | cons c t ih =>
    obtain ⟨p, ps, hp⟩ := List.exists_cons_of_ne_nil (List.splitOn_ne_nil sep t)
    rw [splitOn, ih, hp, List.splitOn_cons_eq_if_modifyHead, hp]
    simp only [beq_iff_eq, List.modifyHead_cons]

theorem join_eq (s : Text) (ps : List Text) : join s ps = s.intercalate ps := by
  induction ps with
  | nil => rfl
  | cons p ps ih =>
    cases ps with
    | nil => exact List.intercalate_singleton.symm
    | cons q ps =>
      rw [List.intercalate_cons_cons, ← ih, join]
      exact List.cons_ne_nil _ _

theorem join_cons_code (c : Code) (sep w : Text) (ws : List Text) :
    join sep ((c :: w) :: ws) = c :: join sep (w :: ws) := by
  cases ws <;> rfl

theorem splitOn_of_not_mem (h : sep ∉ t) : splitOn sep t = [t] := by
  rw [splitOn_eq, List.splitOn_eq_singleton h]

theorem splitOn_append_cons (sep : Code) (s t : Text) :
    splitOn sep (s ++ sep :: t) = splitOn sep s ++ splitOn sep t := by
  rw [splitOn_eq, splitOn_eq, splitOn_eq, List.splitOn_append_cons_self]

/-- A text has no separator, or a first one and something behind it. -/
theorem pieces_induction (sep : Code) {motive : Text → Prop} (single : ∀ t, sep ∉ t → motive t)
    (cut : ∀ s r, sep ∉ s → motive r → motive (s ++ sep :: r)) (t : Text) : motive t := by
  by_cases hsep : sep ∈ t
  · obtain ⟨s, r, rfl, hs⟩ := List.eq_append_cons_of_mem hsep
    exact cut s r hs (pieces_induction sep single cut r)
  · exact single t hsep
termination_by t.length

theorem splitOn_append_cons_of_not_mem {s : Text} (hs : sep ∉ s) (t : Text) :
    splitOn sep (s ++ sep :: t) = s :: splitOn sep t := by
  rw [splitOn_append_cons, splitOn_of_not_mem hs, List.singleton_append]

theorem splitOn_replicate_append (sep : Code) (n : Nat) (t : Text) :
    splitOn sep (List.replicate n sep ++ t) = List.replicate n [] ++ splitOn sep t := by
  induction n with
  | zero => rfl
  | succ n ih =>
    rw [List.replicate_succ, List.cons_append, splitOn_cons_sep, ih, List.replicate_succ,
      List.cons_append]

theorem join_splitOn (sep : Code) (t : Text) : join [sep] (splitOn sep t) = t := by
  rw [join_eq, splitOn_eq, List.intercalate_splitOn]

theorem splitOn_join {ps : List Text} (hne : ps ≠ []) (h : ∀ p ∈ ps, sep ∉ p) :
    splitOn sep (join [sep] ps) = ps := by
  rw [splitOn_eq, join_eq, List.splitOn_intercalate sep h hne]

theorem not_mem_of_mem_splitOn (h : p ∈ splitOn sep t) : sep ∉ p := by
  induction t using pieces_induction sep with
  | single t ht =>
    rw [splitOn_of_not_mem ht, List.mem_singleton] at h
    exact h ▸ ht
  | cut s r hs ih =>
    rw [splitOn_append_cons_of_not_mem hs, List.mem_cons] at h
    obtain rfl | h := h
    · exact hs
    · exact ih h

/-- There is but one piece if and only if there is nothing to split at. -/
theorem splitOn_eq_singleton_iff : splitOn sep t = [p] ↔ sep ∉ t ∧ t = p := by
  constructor
  · intro h
    have hp : sep ∉ p := not_mem_of_mem_splitOn (by rw [h]; exact List.mem_singleton_self p)
    have ht := join_splitOn sep t
    rw [h] at ht
    rw [← ht]
    exact ⟨hp, rfl⟩
  · rintro ⟨hnot, rfl⟩
    exact splitOn_of_not_mem hnot

theorem mem_of_mem_splitOn {c : Code} (hp : p ∈ splitOn sep t) (hc : c ∈ p) : c ∈ t := by
  induction t using pieces_induction sep with
  | single t ht =>
    rw [splitOn_of_not_mem ht, List.mem_singleton] at hp
    exact hp ▸ hc
  | cut s r hs ih =>
    rw [splitOn_append_cons_of_not_mem hs, List.mem_cons] at hp
    obtain rfl | hp := hp
    · exact List.mem_append_left _ hc
    · exact List.mem_append_right _ (List.mem_cons_of_mem _ (ih hp))

theorem of_nil_mem_splitOn (h : [] ∈ splitOn sep t) :
    t = [] ∨ t.head? = some sep ∨ t.getLast? = some sep ∨ [sep, sep] <:+: t := by
  induction t using pieces_induction sep with
  | single t ht =>
    rw [splitOn_of_not_mem ht, List.mem_singleton] at h
    exact .inl h.symm
  | cut s r hs ih =>
    rw [splitOn_append_cons_of_not_mem hs, List.mem_cons] at h
    obtain rfl | h := h
    · exact .inr (.inl rfl)
    · refine .inr (.inr ?_)
      obtain rfl | hhead | hlast | hdouble := ih h
      · exact .inl List.getLast?_concat
      · obtain ⟨r, rfl⟩ := List.head?_eq_some_iff.mp hhead
        exact .inr ⟨s, r, by simp⟩
      · obtain ⟨r, rfl⟩ := List.getLast?_eq_some_iff.mp hlast
        exact .inl (List.getLast?_eq_some_iff.mpr ⟨s ++ sep :: r, by simp⟩)
      · exact .inr (hdouble.trans ⟨s ++ [sep], [], by simp⟩)

/-- A piece is empty if and only if the text is, or starts or ends with a separator, or has two of
them in a row. -/
theorem nil_mem_splitOn_iff : [] ∈ splitOn sep t ↔
    t = [] ∨ t.head? = some sep ∨ t.getLast? = some sep ∨ [sep, sep] <:+: t := by
  refine ⟨of_nil_mem_splitOn, ?_⟩
  rintro (rfl | hhead | hlast | ⟨s, r, rfl⟩)
  · exact List.mem_cons_self
  · obtain ⟨r, rfl⟩ := List.head?_eq_some_iff.mp hhead
    rw [splitOn_cons_sep]
    exact List.mem_cons_self
  · obtain ⟨s, rfl⟩ := List.getLast?_eq_some_iff.mp hlast
    rw [splitOn_append_cons]
    exact List.mem_append_right _ List.mem_cons_self
  · have htext : s ++ [sep, sep] ++ r = s ++ sep :: sep :: r := by simp
    rw [htext, splitOn_append_cons, splitOn_cons_sep]
    exact List.mem_append_right _ List.mem_cons_self

end WebLint.Text
