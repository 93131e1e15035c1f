import Mathlib.Data.List.DropRight
import WebLint.Text.Blank

namespace WebLint.Text

variable {p : Code → Bool} {c d : Code} {t : Text}

theorem dropEndWhile_eq (p : Code → Bool) (t : Text) : t.dropEndWhile p = List.rdropWhile p t :=
  rfl

theorem dropEndWhile_of_forall_not (h : ∀ c ∈ t, p c = false) : t.dropEndWhile p = t := by
  rw [dropEndWhile_eq, List.rdropWhile_eq_self_iff]
  intro hne
  simp [h _ (List.getLast_mem hne)]

theorem trimWhile_of_forall_not (h : ∀ c ∈ t, p c = false) : t.trimWhile p = t := by
  have hd : t.dropWhile p = t := by
    rw [List.dropWhile_eq_self_iff]
    intro hl
    simpa using h _ (List.getElem_mem hl)
  rw [trimWhile, hd, dropEndWhile_of_forall_not h]

/-- White space around a text is trimmed, and nothing else if the text neither starts nor ends with
any. -/
theorem trimWhile_padded {pre post t : Text} (hpre : ∀ c ∈ pre, p c = true)
    (hpost : ∀ c ∈ post, p c = true) (hc : p c = false) (hd : p d = false) :
    (pre ++ (c :: (t ++ [d])) ++ post).trimWhile p = c :: (t ++ [d]) := by
  have hstart : (pre ++ (c :: (t ++ [d])) ++ post).dropWhile p = c :: (t ++ [d]) ++ post := by
    rw [List.append_assoc, List.dropWhile_append_of_pos hpre, List.cons_append,
      List.dropWhile_cons_of_neg (by simp [hc])]
  have hreverse : (c :: (t ++ [d]) ++ post).reverse = post.reverse ++ (d :: (c :: t).reverse) := by
    simp
  rw [trimWhile, hstart, dropEndWhile, hreverse,
    List.dropWhile_append_of_pos (by simpa using hpost), List.dropWhile_cons_of_neg (by simp [hd])]
  simp

/-- A text is trimmed at its end up to something that is no white space. -/
theorem exists_trimEnd (t : Text) :
    ∃ w, t = t.trimEnd ++ w ∧ (∀ c ∈ w, c.isBlank = true) ∧
      ∀ d, t.trimEnd.getLast? = some d → d.isBlank = false := by
  refine ⟨t.rtakeWhile Code.isBlank, ?_, fun c hc => List.mem_rtakeWhile_imp hc, fun d hd => ?_⟩
  · exact (List.rdropWhile_append_rtakeWhile ..).symm
  · have hne : t.trimEnd ≠ [] := by
      intro hnil
      rw [hnil] at hd
      cases hd
    rw [List.getLast?_eq_some_getLast hne, Option.some.injEq] at hd
    rw [← hd]
    exact eq_false_of_ne_true (List.rdropWhile_last_not _ _ hne)

theorem trimEnd_eq_nil_iff : t.trimEnd = [] ↔ t.isBlank = true := by
  rw [trimEnd, dropEndWhile_eq, List.rdropWhile_eq_nil_iff, isBlank, List.all_eq_true]

theorem trimEnd_of_getLast? (h : t.getLast? = some c) (hc : c.isBlank = false) : t.trimEnd = t := by
  rw [trimEnd, dropEndWhile_eq, List.rdropWhile_eq_self_iff]
  intro hne
  rw [List.getLast?_eq_some_getLast hne, Option.some.injEq] at h
  rw [h, hc]
  exact Bool.false_ne_true

theorem exists_trim (t : Text) : ∃ lead trail, t = lead ++ t.trim ++ trail ∧
    (∀ c ∈ lead, c.isBlank = true) ∧ ∀ c ∈ trail, c.isBlank = true := by
  obtain ⟨trail, ht, htrail, -⟩ := exists_trimEnd (t.dropWhile Code.isBlank)
  refine ⟨t.takeWhile Code.isBlank, trail, ?_, fun c hc => List.mem_takeWhile_imp hc, htrail⟩
  have htrim : t.trim = trimEnd (t.dropWhile Code.isBlank) := rfl
  rw [htrim, List.append_assoc, ← ht, List.takeWhile_append_dropWhile]

theorem trimWhile_cons_of_not (hc : p c = false) (t : Text) :
    trimWhile p (c :: t) = c :: t.dropEndWhile p := by
  have hself : List.dropWhile p [c] = [c] := List.dropWhile_cons_of_neg (by simp [hc])
  rw [trimWhile, List.dropWhile_cons_of_neg (by simp [hc]), dropEndWhile, dropEndWhile,
    List.reverse_cons, List.dropWhile_append, hself]
  cases t.reverse.dropWhile p <;> simp

theorem isBlank_eq_false_iff : t.isBlank = false ↔ ∃ c ∈ t, c.isBlank = false := by
  simp [isBlank]

theorem trim_of_forall (h : ∀ c ∈ t, c.isBlank = true) : t.trim = [] := by
  rw [trim, trimWhile, List.dropWhile_eq_nil_iff.mpr h]
  rfl

theorem trim_append_cons {lead : Text} (hlead : ∀ d ∈ lead, d.isBlank = true)
    (hc : c.isBlank = false) (t : Text) : (lead ++ c :: t).trim = c :: t.trimEnd := by
  have htrim : (lead ++ c :: t).trim = trimWhile Code.isBlank (c :: t) := by
    rw [trim, trimWhile, List.dropWhile_append_of_pos hlead]
    rfl
  rw [htrim, trimWhile_cons_of_not hc]
  rfl

/-- A text is all white space, or there is a first code point that is none. -/
theorem blank_or_exists (t : Text) : (∀ c ∈ t, c.isBlank = true) ∨
    ∃ lead c rest, t = lead ++ c :: rest ∧ (∀ d ∈ lead, d.isBlank = true) ∧ c.isBlank = false := by
  induction t with
  | nil => exact .inl (List.forall_mem_nil _)
  | cons c t ih =>
    cases hc : c.isBlank with
    | false => exact .inr ⟨[], c, t, rfl, List.forall_mem_nil _, hc⟩
    | true =>
      obtain h | ⟨lead, d, rest, rfl, hlead, hd⟩ := ih
      · exact .inl (List.forall_mem_cons.mpr ⟨hc, h⟩)
      · exact .inr ⟨c :: lead, d, rest, rfl, List.forall_mem_cons.mpr ⟨hc, hlead⟩, hd⟩

end WebLint.Text
