import WebLint.Display.Emoji

namespace WebLint

theorem Text.startsWith_iff {t p : Text} : t.startsWith p = true ↔ p <+: t := by
  rw [startsWith, Option.isSome_iff_exists]
  simp only [dropPrefix?_eq_some_iff]
  exact exists_congr fun r => eq_comm

namespace Emoji

/-- The name in a code: what stands in front of the wish at its end, if there is one. -/
def bareName : Text → Text
  | [] => []
  | c :: t => if c :: t = "-emoji" ∨ c :: t = "-text" then [] else c :: bareName t

def IsCode (x : Text) : Prop :=
  colon ∉ x ∧ ofName? (bareName x) ≠ none

/-- Between the two colons of some pair stands a code. -/
inductive Coded : Text → Prop
  | here {u x t : Text} (hu : colon ∉ u) (hx : IsCode x) : Coded (u ++ colon :: (x ++ colon :: t))
  | later {u x t : Text} (hu : colon ∉ u) (hx : colon ∉ x) (ht : Coded t) :
    Coded (u ++ colon :: (x ++ colon :: t))

theorem exists_pair (t : Text) :
    (∃ u x r, t = u ++ colon :: (x ++ colon :: r) ∧ colon ∉ u ∧ colon ∉ x) ∨
      (∃ u x, t = u ++ colon :: x ∧ colon ∉ u ∧ colon ∉ x) ∨ colon ∉ t := by
  by_cases ht : colon ∈ t
  · obtain ⟨u, r, rfl, hu⟩ := List.eq_append_cons_of_mem ht
    by_cases hr : colon ∈ r
    · obtain ⟨x, r, rfl, hx⟩ := List.eq_append_cons_of_mem hr
      exact .inl ⟨u, x, r, rfl, hu, hx⟩
    · exact .inr (.inl ⟨u, r, rfl, hu, hr⟩)
  · exact .inr (.inr ht)

/-! ### Codes that are read -/

/-- What stands in front of the first colon of a text is known from the text. -/
theorem eq_of_append_colon {w y s r : Text} (hw : colon ∉ w) (hy : colon ∉ y)
    (h : w ++ colon :: s = y ++ colon :: r) : w = y := by
  induction w generalizing y with
  | nil =>
    cases y with
    | nil => rfl
    | cons d y =>
      obtain ⟨rfl, -⟩ := List.cons.inj h
      exact absurd List.mem_cons_self hy
  | cons c w ih =>
    cases y with
    | nil =>
      obtain ⟨rfl, -⟩ := List.cons.inj h
      exact absurd List.mem_cons_self hw
    | cons d y =>
      obtain ⟨rfl, htail⟩ := List.cons.inj h
      have hw' : colon ∉ w := fun hm => hw (List.mem_cons_of_mem _ hm)
      have hy' : colon ∉ y := fun hm => hy (List.mem_cons_of_mem _ hm)
      rw [ih hw' hy' htail]

/-- An end of a code is a wish, or nothing, with the colon behind it. -/
theorem eq_of_mem_codeEnds :
    ∀ e ∈ codeEnds, e.1 = e.1.dropLast ++ [colon] ∧ colon ∉ e.1.dropLast ∧
      (e.1.dropLast = [] ∨ e.1.dropLast = "-emoji" ∨ e.1.dropLast = "-text") := by
  decide

theorem exists_mem_codeEnds {x : Text} (hx : x = [] ∨ x = "-emoji" ∨ x = "-text") :
    ∃ e ∈ codeEnds, e.1 = x ++ [colon] := by
  obtain rfl | rfl | rfl := hx
  · exact ⟨(":", []), by decide, rfl⟩
  · exact ⟨("-emoji:", [Code.ofNat 0xfe0f]), by decide, rfl⟩
  · exact ⟨("-text:", [Code.ofNat 0xfe0e]), by decide, rfl⟩

theorem startsWith_codeEnd {x r : Text} (hx : colon ∉ x) {e : Text × Text} (he : e ∈ codeEnds) :
    Text.startsWith (x ++ colon :: r) e.1 = true ↔ e.1 = x ++ [colon] := by
  obtain ⟨hend, hmem, -⟩ := eq_of_mem_codeEnds e he
  rw [Text.startsWith_iff, hend]
  constructor
  · rintro ⟨s, hs⟩
    rw [List.append_assoc, List.singleton_append] at hs
    rw [eq_of_append_colon hmem hx hs]
  · intro heq
    rw [List.append_cancel_right heq]
    exact ⟨r, by rw [List.append_assoc, List.singleton_append]⟩

theorem nameAt?_of_not_mem {t : Text} (h : colon ∉ t) (start : Text) : nameAt? start t = none := by
  induction t generalizing start with
  | nil => rfl
  | cons c t ih =>
    have hend : codeEnds.find? (fun e => Text.startsWith (c :: t) e.1) = none := by
      rw [List.find?_eq_none]
      intro e he hstarts
      have hstart := Text.startsWith_iff.mp hstarts
      rw [(eq_of_mem_codeEnds e he).1] at hstart
      exact h (hstart.subset (List.mem_append_right _ List.mem_cons_self))
    have hrest := ih (fun hm => h (List.mem_cons_of_mem _ hm)) (c :: start)
    rw [nameAt?, hend]
    simp only [hrest, ite_self]

theorem nameAt?_end {x : Text} (hx : colon ∉ x) (hwish : x = [] ∨ x = "-emoji" ∨ x = "-text")
    (start r : Text) :
    ∃ e ∈ codeEnds, nameAt? start (x ++ colon :: r) =
      some ⟨start.reverse, e.2, start.length + (x.length + 1)⟩ := by
  obtain ⟨c, t, ht⟩ := List.exists_cons_of_ne_nil (l := x ++ colon :: r) (by simp)
  cases hend : codeEnds.find? (fun e => Text.startsWith (x ++ colon :: r) e.1) with
  | none =>
    obtain ⟨e, he, heq⟩ := exists_mem_codeEnds hwish
    exact absurd ((startsWith_codeEnd hx he).mpr heq) (List.find?_eq_none.mp hend e he)
  | some e =>
    have he := List.mem_of_find?_eq_some hend
    have hstarts := List.find?_some hend
    have heq := (startsWith_codeEnd hx he).mp hstarts
    refine ⟨e, he, ?_⟩
    rw [ht] at hend ⊢
    rw [nameAt?, hend]
    dsimp only
    rw [heq, List.length_append, List.length_singleton]

theorem nameAt?_pair {x : Text} (hx : colon ∉ x) (hblank : ∀ c ∈ x, c.isBlank = false)
    (start r : Text) :
    ∃ e ∈ codeEnds, nameAt? start (x ++ colon :: r) =
      some ⟨start.reverse ++ bareName x, e.2, start.length + (x.length + 1)⟩ := by
  induction x generalizing start with
  | nil =>
    rw [bareName, List.append_nil]
    exact nameAt?_end hx (.inl rfl) start r
  | cons c x ih =>
    rw [bareName]
    by_cases hwish : c :: x = "-emoji" ∨ c :: x = "-text"
    · rw [if_pos hwish, List.append_nil]
      exact nameAt?_end hx (.inr hwish) start r
    · have hend :
          codeEnds.find? (fun e => Text.startsWith (c :: (x ++ colon :: r)) e.1) = none := by
        rw [List.find?_eq_none]
        intro e he hstarts
        have heq := (startsWith_codeEnd hx he).mp hstarts
        obtain ⟨-, -, h⟩ := eq_of_mem_codeEnds e he
        rw [heq, List.dropLast_concat] at h
        exact h.elim (List.cons_ne_nil c x) hwish
      have hx' : colon ∉ x := fun hm => hx (List.mem_cons_of_mem _ hm)
      obtain ⟨e, he, hname⟩ :=
        ih hx' (fun d hd => hblank d (List.mem_cons_of_mem _ hd)) (c :: start)
      refine ⟨e, he, ?_⟩
      have hlength :
          start.length + ((c :: x).length + 1) = (c :: start).length + (x.length + 1) := by
        simp only [List.length_cons]
        omega
      rw [if_neg hwish, hlength, List.cons_append, nameAt?, hend, hblank c List.mem_cons_self]
      rw [List.reverse_cons, List.append_assoc, List.singleton_append] at hname
      exact hname

theorem selector_of_nameAt? {start t : Text} {n : Name} (h : nameAt? start t = some n) :
    ∃ e ∈ codeEnds, n.selector = e.2 := by
  fun_induction nameAt? start t with
  | case1 => cases h
  | case2 start c r ending selector hfind =>
    obtain rfl := Option.some.inj h
    exact ⟨_, List.mem_of_find?_eq_some hfind, rfl⟩
  | case3 => cases h
  | case4 start c r _ _ ih => exact ih h

/-! ### Texts with emoji in place of codes -/

theorem replacedFrom_eq (k : Nat) (t : Text) : replacedFrom k t = replaced (t.drop k) := by
  induction t generalizing k with
  | nil => cases k <;> rfl
  | cons c t ih =>
    cases k with
    | zero => rfl
    | succ k => exact ih k

theorem replaced_nil : replaced [] = [] :=
  rfl

theorem replaced_append {u : Text} (hu : colon ∉ u) (t : Text) :
    replaced (u ++ t) = u ++ replaced t := by
  induction u with
  | nil => rfl
  | cons c u ih =>
    have hc : c ≠ colon := fun h => hu (h ▸ List.mem_cons_self)
    have hrest := ih fun h => hu (List.mem_cons_of_mem _ h)
    rw [List.cons_append, replaced, replacedFrom, if_neg hc, replacedFrom_eq, List.drop_zero, hrest]
    rfl

theorem replaced_of_not_mem {t : Text} (h : colon ∉ t) : replaced t = t := by
  have happend := replaced_append h []
  rwa [List.append_nil, replaced_nil, List.append_nil] at happend

theorem replaced_single {x : Text} (hx : colon ∉ x) : replaced (colon :: x) = colon :: x := by
  rw [replaced, replacedFrom, if_pos rfl, nameAt?_of_not_mem hx, replacedFrom_eq, List.drop_zero,
    replaced_of_not_mem hx]

def shown (x selector : Text) : Text :=
  match ofName? (bareName x) with
  | some e => e ++ selector
  | none => colon :: (x ++ [colon])

theorem replaced_pair {x : Text} (hx : colon ∉ x) (hblank : ∀ c ∈ x, c.isBlank = false)
    (r : Text) :
    ∃ e ∈ codeEnds, replaced (colon :: (x ++ colon :: r)) = shown x e.2 ++ replaced r := by
  obtain ⟨e, he, hname⟩ := nameAt?_pair hx hblank [] r
  have hlength : ([] : Text).length + (x.length + 1) = (x ++ [colon]).length := by simp
  have hsplit : x ++ colon :: r = x ++ [colon] ++ r := by simp
  rw [hlength] at hname
  refine ⟨e, he, ?_⟩
  rw [replaced, replacedFrom, if_pos rfl, hname]
  dsimp only
  rw [hsplit, replacedFrom_eq, List.drop_left, List.take_left, shown]
  rfl

theorem replaced_of_not_coded {t : Text} (hblank : ∀ c ∈ t, c.isBlank = false) (h : ¬ Coded t) :
    replaced t = t := by
  obtain ⟨u, x, r, rfl, hu, hx⟩ | ⟨u, x, rfl, hu, hx⟩ | ht := exists_pair t
  · simp only [List.mem_append, List.mem_cons] at hblank
    have hr := replaced_of_not_coded (t := r) (fun c hc => hblank c (by simp [hc]))
      fun hr => h (.later hu hx hr)
    obtain ⟨e, -, hpair⟩ := replaced_pair hx (fun c hc => hblank c (by simp [hc])) r
    have hname : ofName? (bareName x) = none :=
      Classical.not_not.mp fun hname => h (.here hu ⟨hx, hname⟩)
    rw [replaced_append hu, hpair, hr, shown, hname]
    simp
  · rw [replaced_append hu, replaced_single hx]
  · exact replaced_of_not_mem ht
termination_by t.length
decreasing_by
  subst_vars
  simp only [List.length_append, List.length_cons]
  omega

/-! ### Code points that are lost -/

variable {p : Code → Bool}

/-- No code point of an emoji or a selector is in the class. -/
structure Spares (p : Code → Bool) : Prop where
  emoji : ∀ names ∈ tables, ∀ e ∈ names, ∀ n ∈ e.2, p (Code.ofNat n) = false
  selector : ∀ e ∈ codeEnds, ∀ c ∈ e.2, p c = false

theorem Spares.ofName? (hp : Spares p) {name e : Text} (h : Emoji.ofName? name = some e) :
    ∀ c ∈ e, p c = false := by
  obtain ⟨entry, hentry, rfl⟩ := Option.map_eq_some_iff.mp h
  obtain ⟨names, hnames, hfind⟩ := List.exists_of_findSome?_eq_some hentry
  rw [List.forall_mem_map]
  exact hp.emoji names hnames entry (List.mem_of_find?_eq_some hfind)

theorem countP_emoji (hp : Spares p) {name e : Text} (h : ofName? name = some e)
    {end_ : Text × Text} (hend : end_ ∈ codeEnds) : (e ++ end_.2).countP p = 0 := by
  rw [List.countP_eq_zero, List.forall_mem_append]
  exact ⟨fun c hc => ne_true_of_eq_false (hp.ofName? h c hc),
    fun c hc => ne_true_of_eq_false (hp.selector end_ hend c hc)⟩

theorem countP_replacedFrom_le (hp : Spares p) (k : Nat) (t : Text) :
    (replacedFrom k t).countP p ≤ (t.drop k).countP p := by
  induction t generalizing k with
  | nil => cases k <;> exact Nat.le_refl _
  | cons c t ih =>
    cases k with
    | succ k => exact ih k
    | zero =>
      rw [replacedFrom, List.drop_zero]
      split
      · rw [List.countP_cons, List.countP_cons]
        exact Nat.add_le_add_right (ih 0) _
      · next n hn =>
        have hrest := ih n.length
        have hsplit : (t.take n.length).countP p + (t.drop n.length).countP p = t.countP p := by
          rw [← List.countP_append, List.take_append_drop]
        dsimp only
        rw [List.countP_append, List.countP_cons]
        split
        · next e he =>
          obtain ⟨-, hname⟩ := Option.ite_none_right_eq_some.mp hn
          obtain ⟨end_, hend, hselector⟩ := selector_of_nameAt? hname
          rw [hselector, countP_emoji hp he hend]
          omega
        · rw [List.countP_cons]
          omega

theorem countP_replaced_le (hp : Spares p) (t : Text) :
    (replaced t).countP p ≤ t.countP p :=
  countP_replacedFrom_le hp 0 t

theorem countP_replaced_lt (hp : Spares p) (hcolon : p colon = true) {t : Text}
    (hblank : ∀ c ∈ t, c.isBlank = false) (h : Coded t) : (replaced t).countP p < t.countP p := by
  induction h with
  | @here u x t hu hx =>
    obtain ⟨e, he, hpair⟩ := replaced_pair hx.1 (fun c hc => hblank c (by simp [hc])) t
    obtain ⟨emoji, hemoji⟩ := Option.ne_none_iff_exists'.mp hx.2
    have hlost := countP_emoji hp hemoji he
    have hrest := countP_replaced_le hp t
    rw [replaced_append hu, hpair, shown, hemoji]
    simp only [List.countP_append, List.countP_cons, hcolon, if_true] at hlost ⊢
    omega
  | @later u x t hu hx _ ih =>
    obtain ⟨e, he, hpair⟩ := replaced_pair hx (fun c hc => hblank c (by simp [hc])) t
    have hrest := ih fun c hc => hblank c (by simp [hc])
    rw [replaced_append hu, hpair, shown]
    split
    · next emoji hemoji =>
      have hlost := countP_emoji hp hemoji he
      simp only [List.countP_append, List.countP_cons, hcolon, if_true] at hlost ⊢
      omega
    · simp only [List.countP_append, List.countP_cons, List.countP_nil, hcolon, if_true]
      omega

end Emoji

end WebLint
