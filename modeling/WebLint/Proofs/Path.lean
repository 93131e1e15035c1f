import WebLint.Path
import WebLint.Proofs.Text.Pieces

namespace WebLint

namespace Path

def IsNormal (p : Path) : Prop :=
  ∀ t ∈ p.parts, isPart t = true ∧ slash ∉ t

instance (p : Path) : Decidable p.IsNormal :=
  inferInstanceAs (Decidable (∀ t ∈ p.parts, isPart t = true ∧ slash ∉ t))

theorem isNormal_ofText (t : Text) : (ofText t).IsNormal := by
  intro s hs
  obtain ⟨hmem, hpart⟩ := List.mem_filter.mp hs
  exact ⟨hpart, Text.not_mem_of_mem_splitOn hmem⟩

variable {p : Path}

theorem IsNormal.parts_join (h : p.IsNormal) :
    (Text.splitOn slash (Text.join [slash] p.parts)).filter isPart = p.parts := by
  by_cases hparts : p.parts = []
  · rw [hparts]
    rfl
  · rw [Text.splitOn_join hparts fun t ht => (h t ht).2]
    exact List.filter_eq_self.mpr fun t ht => (h t ht).1

/-- What follows the root of a path in normal form does not start with a slash. -/
theorem IsNormal.takeWhile_join (h : p.IsNormal) :
    (Text.join [slash] p.parts).takeWhile (· = slash) = [] := by
  cases hparts : p.parts with
  | nil => rfl
  | cons t ts =>
    obtain ⟨hpart, hslash⟩ := h t (by rw [hparts]; exact List.mem_cons_self)
    cases t with
    | nil => cases hpart
    | cons c t =>
      have hc : ¬ c = slash := fun hc => hslash (hc ▸ List.mem_cons_self)
      rw [Text.join_cons_code, List.takeWhile_cons_of_neg (by simpa using hc)]

theorem ofText_text (h : p.IsNormal) : ofText p.text = p := by
  obtain ⟨root, parts⟩ := p
  have hparts := h.parts_join
  have hroot := h.takeWhile_join
  dsimp only at hparts hroot
  cases root with
  | none =>
    rw [text]
    split
    · next hempty =>
      obtain ⟨-, rfl⟩ := hempty
      rfl
    · rw [Root.text, List.nil_append, ofText, hparts, Root.ofText, hroot]
      rfl
  | single =>
    rw [text, if_neg (by simp), Root.text, List.singleton_append, ofText, Text.splitOn_cons_sep,
      List.filter_cons_of_neg (by decide), hparts, Root.ofText,
      List.takeWhile_cons_of_pos (by decide), hroot]
    rfl
  | double =>
    rw [text, if_neg (by simp), Root.text, List.cons_append, List.singleton_append, ofText,
      Text.splitOn_cons_sep, Text.splitOn_cons_sep, List.filter_cons_of_neg (by decide),
      List.filter_cons_of_neg (by decide), hparts, Root.ofText,
      List.takeWhile_cons_of_pos (by decide), List.takeWhile_cons_of_pos (by decide), hroot]
    rfl

end Path

end WebLint
