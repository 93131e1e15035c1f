import WebLint.Pattern.Matcher
import WebLint.Stage.Comments

namespace WebLint.Pattern

open Segment (Split)

/-! ### Matchers that find what a search finds -/

def Place.behind (p : Place) (d : Split) : Place :=
  ⟨d.1.reverse ++ p.before, d.2, p.offset + d.1.length⟩

/-- If what follows the matcher succeeds behind what a search finds, then it is not tried behind
anything else. -/
def Finds (m : Matcher) (find? : Text → Option Split) : Prop :=
  ∀ p s k, (∀ d, find? p.after = some d → (k (p.behind d) s).isSome = true) →
    m p s k = (find? p.after).bind fun d => k (p.behind d) s

variable {m n : Matcher} {find? other? : Text → Option Split} {ok : Code → Bool}

theorem Place.behind_cons (before : Text) (c : Code) (r : Text) (offset : Nat) (d : Split) :
    Place.behind ⟨c :: before, r, offset + 1⟩ d =
      Place.behind ⟨before, c :: r, offset⟩ (Segment.after c d) := by
  simp only [Place.behind, Segment.after, List.reverse_cons, List.append_assoc, List.length_cons,
    List.singleton_append, Nat.add_assoc, Nat.add_comm 1]

theorem Place.behind_behind (p : Place) (d e : Split) :
    (p.behind d).behind e = p.behind (d.1 ++ e.1, e.2) := by
  simp only [Place.behind, List.reverse_append, List.append_assoc, List.length_append,
    Nat.add_assoc]

theorem Finds.of_none {p : Place} (h : Finds m find?) (hp : find? p.after = none) (s : Captures)
    (k : Place → Captures → Option Found) : m p s k = none := by
  rw [h p s k, hp]
  · rfl
  · intro d hd
    cases hp.symm.trans hd

theorem Finds.of_some {p : Place} {d : Split} {s : Captures} {k : Place → Captures → Option Found}
    (h : Finds m find?) (hp : find? p.after = some d) (hk : (k (p.behind d) s).isSome = true) :
    m p s k = k (p.behind d) s := by
  rw [h p s k, hp]
  · rfl
  · intro d' hd'
    cases hp.symm.trans hd'
    exact hk

theorem Finds.orElse (hm : Finds m find?) (hn : Finds n other?) :
    Finds (m.orElse n) fun t => (find? t).or (other? t) := by
  intro p s k hk
  dsimp only at hk ⊢
  cases hd : find? p.after with
  | none =>
    rw [hd] at hk
    rw [Matcher.orElse, hm.of_none hd]
    exact hn p s k hk
  | some d =>
    rw [hd] at hk
    have hsome := hk d rfl
    obtain ⟨f, hf⟩ := Option.isSome_iff_exists.mp hsome
    rw [Matcher.orElse, hm.of_some hd hsome, hf]
    exact hf.symm

/-! ### Single code points and runs of them -/

theorem one_cons (ok : Code → Bool) (before : Text) (c : Code) (r : Text) (offset : Nat)
    (s : Captures) (k : Place → Captures → Option Found) :
    Matcher.one ok ⟨before, c :: r, offset⟩ s k =
      if ok c then k ⟨c :: before, r, offset + 1⟩ s else none :=
  rfl

theorem greedily_succ (m : Matcher) (fuel : Nat) (p : Place) (s : Captures)
    (k : Place → Captures → Option Found) :
    Matcher.greedily m (fuel + 1) none p s k =
      (m p s fun q t => if q.offset = p.offset then k q t else
        Matcher.greedily m fuel none q t k).or (k p s) := by
  simp only [Matcher.greedily, Matcher.fewer, Option.map_none, reduceCtorEq, if_false]
  split
  · next f hf => rw [hf, Option.some_or]
  · next hnone => rw [hnone, Option.none_or]

/-- A run of a class is taken as a whole if what follows succeeds behind it, or if what follows
fails in front of the class. -/
theorem greedily_one {t : Text} {before : Text} {offset : Nat} {s : Captures}
    {k : Place → Captures → Option Found} {fuel : Nat} (hfuel : t.length < fuel)
    (h : (k (Place.behind ⟨before, t, offset⟩ (t.takeWhile ok, t.dropWhile ok)) s).isSome = true ∨
      ∀ q c r u, q.after = c :: r → ok c = true → k q u = none) :
    Matcher.greedily (.one ok) fuel none ⟨before, t, offset⟩ s k =
      k (Place.behind ⟨before, t, offset⟩ (t.takeWhile ok, t.dropWhile ok)) s := by
  induction t generalizing before offset fuel with
  | nil =>
    obtain ⟨fuel, rfl⟩ := Nat.exists_eq_succ_of_ne_zero (Nat.ne_zero_of_lt hfuel)
    exact greedily_succ ..
  | cons c r ih =>
    obtain ⟨fuel, rfl⟩ := Nat.exists_eq_succ_of_ne_zero (Nat.ne_zero_of_lt hfuel)
    rw [greedily_succ, one_cons]
    cases hc : ok c with
    | false =>
      rw [List.takeWhile_cons_of_neg (by simp [hc]), List.dropWhile_cons_of_neg (by simp [hc])]
      rfl
    | true =>
      rw [List.takeWhile_cons_of_pos hc, List.dropWhile_cons_of_pos hc] at h ⊢
      rw [if_pos rfl, if_neg (Nat.succ_ne_self offset), ih (Nat.lt_of_succ_lt_succ hfuel)
        (by rwa [Place.behind_cons]), Place.behind_cons]
      obtain h | h := h
      · exact Option.or_of_isSome h
      · have hnone : k ⟨before, c :: r, offset⟩ s = none := h _ c r s rfl hc
        rw [hnone, Option.or_none]
        rfl

theorem lazily_succ (m : Matcher) (fuel : Nat) (p : Place) (s : Captures)
    (k : Place → Captures → Option Found) :
    Matcher.lazily m (fuel + 1) none p s k =
      (k p s).or (m p s fun q t => if q.offset = p.offset then k q t else
        Matcher.lazily m fuel none q t k) := by
  simp only [Matcher.lazily, Matcher.fewer, Option.map_none, reduceCtorEq, if_false]
  split
  · next f hf => rw [hf, Option.some_or]
  · next hnone => rw [hnone, Option.none_or]

end WebLint.Pattern
