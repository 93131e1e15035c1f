import WebLint.Pattern.Replacement
import WebLint.Proofs.Comments.Pattern

namespace WebLint

namespace Pattern

open Segment (Split commentEnd? openers opened?)

/-- The segment that an opener finds at the start of a text, and the rest. -/
def opening? (type : ResourceType) (t : Text) : Option (Segment × Text) :=
  (openers type).findSome? fun o => opened? o.1 o.2.1 t o.2.2

def kept? (type : ResourceType) (t : Text) : Option (Segment × Text) :=
  (openers type).dropLast.findSome? fun o => opened? o.1 o.2.1 t o.2.2

variable {type : ResourceType} {t : Text} {x : Segment × Text}

theorem opening?_eq (type : ResourceType) (t : Text) :
    opening? type t = (kept? type t).or (opened? .comment "/*" t commentEnd?) := by
  have hopeners : openers type =
      (openers type).dropLast ++ [(SegmentKind.comment, Text.ofString "/*", commentEnd?)] := by
    cases type <;> rfl
  rw [opening?, hopeners, List.findSome?_append, List.findSome?_singleton]
  rfl

theorem kind_of_kept? (h : kept? type t = some x) : x.1.kind ≠ .comment := by
  obtain ⟨o, ho, hx⟩ := List.exists_of_findSome?_eq_some h
  have hkinds : ∀ o ∈ (openers type).dropLast, o.1 ≠ .comment := by
    cases type <;> simp [openers]
  obtain ⟨a, r, -, -, hs⟩ := Segment.opened?_eq_some_iff.mp hx
  rw [hs]
  exact hkinds o ho

theorem eq_of_opening? (h : opening? type t = some x) : x.1.text ≠ [] ∧ t = x.1.text ++ x.2 := by
  obtain ⟨o, ho, hx⟩ := List.exists_of_findSome?_eq_some h
  obtain ⟨-, hshape, ht⟩ := Segment.shape_of_opened? ho hx
  exact ⟨hshape.ne_nil, ht⟩

theorem matcher_commentTree (type : ResourceType) (p : Place) (s : Captures)
    (k : Place → Captures → Option Found) :
    (commentTree type).matcher p s k =
      (branchMatcher (commentTree type).groups dotAll (keptNodes type) p s
        fun q u => k q ((1, p.offset, q.offset) :: u)).or
      (sequenceMatcher (commentTree type).groups dotAll (openedBy "/*" blockTail) p s k) := by
  have hadjust : dotAll.adjust {} {} = dotAll := rfl
  simp only [Compiled.matcher, commentTree, sequenceMatcher, Node.matcher, branchMatcher,
    Matcher.andThen, Matcher.done, Matcher.capture, Matcher.orElse, hadjust]
  split
  · next f hf => rw [hf, Option.some_or]
  · next hnone =>
    rw [hnone, Option.none_or]
    split
    · next f hf => rw [hf]
    · next hnone => rw [hnone]

/-- The match of a segment. One that is kept is the first group, too. -/
def matchOf (p : Place) (x : Segment × Text) : Found :=
  (p.behind (x.1.text, x.2), if x.1.kind = .comment then []
    else [(1, p.offset, p.offset + x.1.text.length)])

theorem matchAt_commentTree (type : ResourceType) (nonempty : Bool) (p : Place) :
    Compiled.matchAt (commentTree type).matcher nonempty p =
      (opening? type p.after).map (matchOf p) := by
  have hkept : Finds (branchMatcher (commentTree type).groups dotAll (keptNodes type)) fun t =>
      (kept? type t).map fun x => (x.1.text, x.2) :=
    finds_branch (forall₂_keptNodes (commentTree type).groups type)
  have hcomment : Follows (commentTree type).groups (openedBy "/*" blockTail)
      (.comment, "/*", commentEnd?) := follows_openedBy .comment "/*" finds_blockTail
  have hmoved : ∀ d : Split, d.1 ≠ [] → (nonempty && (p.behind d).offset == p.offset) = false := by
    intro d hd
    have hpos := List.length_pos_iff.mpr hd
    have hne : (p.behind d).offset ≠ p.offset := Nat.ne_of_gt (Nat.lt_add_of_pos_right hpos)
    rw [beq_false_of_ne hne, Bool.and_false]
  rw [Compiled.matchAt, matcher_commentTree]
  cases hx : kept? type p.after with
  | some x =>
    have hopening : opening? type p.after = some x := by rw [opening?_eq, hx, Option.some_or]
    have hfree := hmoved (x.1.text, x.2) ((eq_of_opening? hopening).1)
    rw [hopening, hkept.of_some (congrArg _ hx) (by simp [hfree]), hfree, Option.map_some,
      matchOf, if_neg (kind_of_kept? hx)]
    rfl
  | none =>
    have hopening := opening?_eq type p.after
    rw [hx, Option.none_or] at hopening
    rw [hkept.of_none (congrArg _ hx), Option.none_or, hopening]
    cases hy : opened? .comment "/*" p.after commentEnd? with
    | none => exact hcomment.of_none (congrArg _ hy) _ _
    | some y =>
      rw [hy] at hopening
      have hfree := hmoved (y.1.text, y.2) ((eq_of_opening? hopening).1)
      have hkind : y.1.kind = .comment := by
        obtain ⟨a, r, -, -, hs⟩ := Segment.opened?_eq_some_iff.mp hy
        rw [hs]
      rw [hcomment.of_some (congrArg _ hy) (by simp [hfree]), hfree, Option.map_some,
        matchOf, if_pos hkind]
      rfl

/-! ### Replacing all matches -/

def left (s : Segment) : Text :=
  if s.kind = .comment then [] else s.text

theorem withoutComments_cons (type : ResourceType) (c : Code) (r : Text) :
    Text.withoutComments type (c :: r) =
      left (Segment.first type c r).1 ++ (Segment.first type c r).2.withoutComments type := by
  obtain ⟨he, hleads⟩ := Segment.first_leads type c r
  rw [Text.withoutComments, he, Segment.segments_of_leads hleads, List.filter_cons, left]
  by_cases hkind : (Segment.first type c r).1.kind = .comment <;>
    simp [hkind, Text.withoutComments]

theorem first_of_opening? {c : Code} {r : Text} (h : opening? type (c :: r) = some x) :
    Segment.first type c r = x := by
  rw [opening?] at h
  rw [Segment.first, h]

theorem first_of_not_opening {c : Code} {r : Text} (h : opening? type (c :: r) = none) :
    Segment.first type c r = (⟨.plain, [c]⟩, r) := by
  rw [opening?] at h
  rw [Segment.first, h]

/-- A search passes over single code points up to what an opener finds. -/
theorem searchFrom_commentTree (type : ResourceType) (nonempty : Bool) (before t : Text)
    (offset : Nat) :
    (Compiled.searchFrom (commentTree type).matcher nonempty before offset t = none ∧
      t.withoutComments type = t) ∨
    ∃ u x p, t = u ++ (x.1.text ++ x.2) ∧ x.1.text ≠ [] ∧
      p = ⟨u.reverse ++ before, x.1.text ++ x.2, offset + u.length⟩ ∧
      Compiled.searchFrom (commentTree type).matcher nonempty before offset t =
        some (p, matchOf p x) ∧
      t.withoutComments type = u ++ (left x.1 ++ x.2.withoutComments type) := by
  induction t generalizing nonempty before offset with
  | nil =>
    have hnone : opening? type [] = none := by cases type <;> rfl
    refine .inl ⟨?_, rfl⟩
    rw [Compiled.searchFrom, matchAt_commentTree, hnone]
    rfl
  | cons c r ih =>
    rw [Compiled.searchFrom, matchAt_commentTree, withoutComments_cons]
    cases hx : opening? type (c :: r) with
    | some x =>
      obtain ⟨hne, hr⟩ := eq_of_opening? hx
      rw [first_of_opening? hx]
      exact .inr ⟨[], x, ⟨before, c :: r, offset⟩, hr, hne, by rw [hr]; rfl, rfl, rfl⟩
    | none =>
      rw [first_of_not_opening hx]
      obtain ⟨hsearch, hr⟩ | ⟨u, x, p, hr, hne, hp, hsearch, hrest⟩ :=
        ih false (c :: before) (offset + 1)
      · exact .inl ⟨hsearch, congrArg (c :: ·) hr⟩
      · refine .inr ⟨c :: u, x, p, congrArg (c :: ·) hr, hne, ?_, hsearch, congrArg (c :: ·) hrest⟩
        rw [hp]
        simp only [List.reverse_cons, List.append_assoc, List.singleton_append, List.length_cons,
          Nat.add_assoc, Nat.add_comm 1]

theorem matchesFrom_of_some {m : Matcher} {nonempty : Bool} {q p : Place} {f : Found}
    (h : Compiled.searchFrom m nonempty q.before q.offset q.after = some (p, f)) (fuel : Nat) :
    Compiled.matchesFrom m (fuel + 1) nonempty q =
      (p, f) :: Compiled.matchesFrom m fuel (p.offset == f.1.offset) f.1 := by
  rw [Compiled.matchesFrom, h]

theorem replaceMatches_cons (whole : Text) (ps : List Piece) (n : Nat) (p : Place) (f : Found)
    (ms : List (Place × Found)) :
    replaceMatches whole ps n ((p, f) :: ms) =
      (whole.drop n).take (p.offset - n) ++
        (ps.flatMap (Piece.expand whole p.offset f.1.offset f.2) ++
          replaceMatches whole ps f.1.offset ms) := by
  rw [← List.append_assoc]
  rfl

/-- The first group of a match is what is left of the segment. -/
theorem expand_matchOf (before rest : Text) (x : Segment × Text) (stop : Nat) :
    [Piece.group 1].flatMap (Piece.expand (before.reverse ++ (x.1.text ++ rest)) before.length stop
      (matchOf ⟨before, x.1.text ++ rest, before.length⟩ x).2) = left x.1 := by
  rw [List.flatMap_singleton, Piece.expand, if_neg Nat.one_ne_zero, matchOf, left]
  split
  · rfl
  · simp [groupText?, List.drop_left']

theorem replaceMatches_matchesFrom (type : ResourceType) {fuel : Nat} (nonempty : Bool)
    (before : Text) {t : Text} (hfuel : t.length < fuel) :
    replaceMatches (before.reverse ++ t) [.group 1] before.length
        (Compiled.matchesFrom (commentTree type).matcher fuel nonempty
          ⟨before, t, before.length⟩) =
      t.withoutComments type := by
  induction fuel generalizing nonempty before t with
  | zero => exact absurd hfuel (Nat.not_lt_zero _)
  | succ fuel ih =>
    obtain ⟨hsearch, ht⟩ | ⟨u, x, p, rfl, hne, hp, hsearch, hrest⟩ :=
      searchFrom_commentTree type nonempty before t before.length
    · rw [Compiled.matchesFrom, hsearch, replaceMatches, ht]
      exact List.drop_left' (List.length_reverse ..)
    · have hlength : before.length + u.length = (u.reverse ++ before).length := by
        rw [List.length_append, List.length_reverse, Nat.add_comm]
      have hstop : (matchOf p x).1 = ⟨x.1.text.reverse ++ (u.reverse ++ before), x.2,
          (x.1.text.reverse ++ (u.reverse ++ before)).length⟩ := by
        have hend : (x.1.text.reverse ++ (u.reverse ++ before)).length =
            before.length + u.length + x.1.text.length := by
          simp only [List.length_append, List.length_reverse]
          omega
        rw [hp, hend]
        rfl
      have hwhole : before.reverse ++ (u ++ (x.1.text ++ x.2)) =
          (u.reverse ++ before).reverse ++ (x.1.text ++ x.2) := by
        rw [List.reverse_append, List.reverse_reverse, List.append_assoc]
      have hnext : (x.1.text.reverse ++ (u.reverse ++ before)).reverse ++ x.2 =
          (u.reverse ++ before).reverse ++ (x.1.text ++ x.2) := by
        rw [List.reverse_append, List.reverse_reverse, List.append_assoc]
      have hshorter : x.2.length < fuel := by
        have hpos := List.length_pos_iff.mpr hne
        rw [List.length_append, List.length_append] at hfuel
        omega
      have hbehind := ih (p.offset == (matchOf p x).1.offset)
        (x.1.text.reverse ++ (u.reverse ++ before)) hshorter
      rw [matchesFrom_of_some hsearch, replaceMatches_cons, hrest]
      congr 1
      · rw [hp, List.drop_left' (List.length_reverse ..), Nat.add_sub_cancel_left, List.take_left]
      · congr 1
        · rw [hwhole, hp, hlength]
          exact expand_matchOf (u.reverse ++ before) x.2 x _
        · rw [← hbehind, hwhole, hnext, hstop]

end Pattern

/-- Putting the first group in place of each match leaves out the comments. -/
theorem Text.replaceMatches_commentPattern (type : ResourceType) (t : Text) :
    ∃ c, Pattern.compile Pattern.dotAll (Pattern.commentPattern type) = .ok c ∧
      Pattern.replaceMatches t [.group 1] 0 (c.allMatches t) = t.withoutComments type := by
  refine ⟨_, Pattern.compile_commentPattern type, ?_⟩
  exact Pattern.replaceMatches_matchesFrom type false [] (by omega)

end WebLint
