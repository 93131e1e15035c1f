import Mathlib
import WebLint.Proofs.Comments.Segmentation
import WebLint.Proofs.Pattern.Matcher

namespace WebLint

namespace Pattern

open Segment (Split quotedEnd? closed? commentEnd? urlEnd? lineEnd openers opened?)

/-- Single and double quotes with what is between them. -/
def stringPattern : Text :=
  "'(?:\\\\.|[^'\\\\\\n])*'|\"(?:\\\\.|[^\"\\\\\\n])*\\\""

/-- What may hold the opening of a comment without being one. -/
def keptPattern : ResourceType → Text
  | .css => stringPattern ++ "|url\\(\\s*[^\\s\"')][^)]*\\)"
  | .js => stringPattern ++ "|\x60(?:\\\\.|[^\x60\\\\])*\x60|//[^\\n]*"

/-- Comments and what is kept, the latter with licence blocks as the first group. -/
def commentPattern (type : ResourceType) : Text :=
  "(" ++ keptPattern type ++ "|/\\*!.*?\\*/)|/\\*.*?\\*/"

def dotAll : Flags where
  dotAll := true

/-! ### The tree of the pattern -/

/-- A backslash and what it takes along, or a code point other than some. -/
def quotedRound (quote : Code) (more : List Code) : List Node := [
  .group none {} {}
    [.branch [[.literal '\\', .any], [.set true ((quote :: '\\' :: more).map .one)]]]]

def quotedTail (quote : Code) (more : List Code) : List Node := [
  .repetition .greedy 0 none (quotedRound quote more), .literal quote]

def urlTail : List Node := [
  .repetition .greedy 0 none [.set false [.category .space false]],
  .set true [.category .space false, .one '"', .one '\'', .one ')'],
  .repetition .greedy 0 none [.set true [.one ')']],
  .literal ')']

def lineTail : List Node := [
  .repetition .greedy 0 none [.set true [.one '\n']]]

def blockTail : List Node := [
  .repetition .lazy 0 none [.any], .literal '*', .literal '/']

def openedBy (opener : Text) (tail : List Node) : List Node :=
  opener.map .literal ++ tail

def keptNodes (type : ResourceType) : List (List Node) :=
  let others := match type with
    | .css => [openedBy "url(" urlTail]
    | .js => [openedBy "\x60" (quotedTail (Code.ofNat 0x60) []), openedBy "//" lineTail]
  [openedBy "'" (quotedTail '\'' ['\n']), openedBy "\"" (quotedTail '"' ['\n'])] ++ others ++
    [openedBy "/*!" blockTail]

def commentTree (type : ResourceType) : Compiled where
  body := [.branch [[.group (some 1) {} {} [.branch (keptNodes type)]], openedBy "/*" blockTail]]
  flags := dotAll
  groups := [(2, widthLimit)]
  names := []

set_option maxRecDepth 4000 in
theorem compile_commentPattern (type : ResourceType) :
    compile dotAll (commentPattern type) = .ok (commentTree type) := by
  cases type with
  | css => cbv
  | js => cbv

/-! ### What each alternative finds -/

variable {groups : List Width} {ns : List Node} {rest? : Text → Option Split} {quote : Code}

theorem literal_cons (a : Code) (before : Text) (c : Code) (r : Text) (offset : Nat)
    (s : Captures) (k : Place → Captures → Option Found) :
    (Node.literal a).matcher groups dotAll ⟨before, c :: r, offset⟩ s k =
      if a = c then k ⟨c :: before, r, offset + 1⟩ s else none := by
  rw [Node.matcher, one_cons]
  simp only [sameLetter, dotAll, Bool.false_eq_true, if_false, beq_iff_eq]

theorem opener_eq (opener before t : Text) (offset : Nat) (s : Captures)
    (k : Place → Captures → Option Found) :
    sequenceMatcher groups dotAll (opener.map .literal ++ ns) ⟨before, t, offset⟩ s k =
      (t.dropPrefix? opener).bind fun r =>
        sequenceMatcher groups dotAll ns (Place.behind ⟨before, t, offset⟩ (opener, r)) s k := by
  induction opener generalizing before t offset with
  | nil => cases t <;> rfl
  | cons a opener ih =>
    rw [List.map_cons, List.cons_append, sequenceMatcher, Matcher.andThen]
    cases t with
    | nil => rfl
    | cons c r =>
      rw [literal_cons, Text.dropPrefix?]
      by_cases hc : a = c
      · subst hc
        rw [if_pos rfl, if_pos rfl, ih]
        simp only [Place.behind_cons, Segment.after]
      · rw [if_neg hc, if_neg hc]
        rfl

/-- An opener, spelled out, with what is found behind it. -/
theorem finds_opener (opener : Text) (h : Finds (sequenceMatcher groups dotAll ns) rest?) :
    Finds (sequenceMatcher groups dotAll (opener.map .literal ++ ns)) fun t =>
      (t.dropPrefix? opener).bind fun r => (rest? r).map fun d => (opener ++ d.1, d.2) := by
  intro p s k hk
  obtain ⟨before, t, offset⟩ := p
  dsimp only at hk ⊢
  rw [opener_eq]
  cases hr : t.dropPrefix? opener with
  | none => rfl
  | some r =>
    rw [hr] at hk
    rw [Option.bind_some, Option.bind_some, h, Option.bind_map]
    · refine Option.bind_congr fun d _ => ?_
      rw [Place.behind_behind]
      rfl
    · intro d hd
      rw [Place.behind_behind]
      exact hk _ (Option.map_eq_some_iff.mpr ⟨d, hd, rfl⟩)

/-! ### Quotes -/

variable {more : List Code}

theorem set_one_cons (cs : List Code) (before : Text) (c : Code) (r : Text) (offset : Nat)
    (s : Captures) (k : Place → Captures → Option Found) :
    (Node.set true (cs.map .one)).matcher groups dotAll ⟨before, c :: r, offset⟩ s k =
      if c ∈ cs then none else k ⟨c :: before, r, offset + 1⟩ s := by
  have hmem : (cs.map SetItem.one).any (·.has dotAll c) = cs.contains c := by
    rw [List.any_map, ← List.any_beq']
    rfl
  rw [Node.matcher, one_cons, hmem, List.contains_eq_mem]
  by_cases hc : c ∈ cs <;> simp [hc]

/-- Between quotes, either a backslash with what it takes along comes next or another code point. -/
theorem quotedRound_eq (p : Place) (s : Captures) (k : Place → Captures → Option Found) :
    sequenceMatcher groups dotAll (quotedRound quote more) p s k =
      (sequenceMatcher groups dotAll [.literal '\\', .any] p s k).or
        ((Node.set true ((quote :: '\\' :: more).map .one)).matcher groups dotAll p s k) := by
  have hadjust : dotAll.adjust {} {} = dotAll := rfl
  simp only [quotedRound, sequenceMatcher, Node.matcher, branchMatcher, Matcher.andThen,
    Matcher.done, Matcher.capture, Matcher.orElse, hadjust]
  split
  · next f hf => rw [hf, Option.some_or]
  · next hnone =>
    rw [hnone, Option.none_or]
    split
    · next f hf => rw [hf]
    · next hnone => rw [hnone]

theorem quotedRound_escaped (before : Text) (c : Code) (r : Text) (offset : Nat)
    (s : Captures) (k : Place → Captures → Option Found) :
    sequenceMatcher groups dotAll (quotedRound quote more) ⟨before, '\\' :: c :: r, offset⟩ s k =
      k ⟨c :: '\\' :: before, r, offset + 2⟩ s := by
  rw [quotedRound_eq, set_one_cons, if_pos (by simp), Option.or_none, sequenceMatcher,
    Matcher.andThen, literal_cons, if_pos rfl]
  rfl

theorem quotedRound_cut (before : Text) (offset : Nat) (s : Captures)
    (k : Place → Captures → Option Found) :
    sequenceMatcher groups dotAll (quotedRound quote more) ⟨before, ['\\'], offset⟩ s k =
      none := by
  rw [quotedRound_eq, set_one_cons, if_pos (by simp), Option.or_none, sequenceMatcher,
    Matcher.andThen, literal_cons, if_pos rfl]
  rfl

theorem quotedRound_plain {c : Code} (hc : c ≠ '\\') (before r : Text) (offset : Nat)
    (s : Captures) (k : Place → Captures → Option Found) :
    sequenceMatcher groups dotAll (quotedRound quote more) ⟨before, c :: r, offset⟩ s k =
      if c ∈ quote :: more then none else k ⟨c :: before, r, offset + 1⟩ s := by
  have hmem : c ∈ quote :: '\\' :: more ↔ c ∈ quote :: more := by simp [hc]
  rw [quotedRound_eq, sequenceMatcher, Matcher.andThen, literal_cons, if_neg (Ne.symm hc),
    Option.none_or, set_one_cons]
  simp only [hmem]

theorem greedily_quotedRound {admitted : Code → Bool} (hquote : quote ≠ '\\')
    (hadmitted : ∀ c, admitted c = true ↔ c ∉ more) {t before : Text} {offset fuel : Nat}
    (hfuel : t.length < fuel) (s : Captures) (k : Place → Captures → Option Found) :
    Matcher.greedily (sequenceMatcher groups dotAll (quotedRound quote more)) fuel none
        ⟨before, t, offset⟩ s (fun q u => (Node.literal quote).matcher groups dotAll q u k) =
      (quotedEnd? quote admitted t).bind fun d => k (Place.behind ⟨before, t, offset⟩ d) s := by
  fun_induction quotedEnd? quote admitted t generalizing before offset fuel with
  | case1 =>
    obtain ⟨fuel, rfl⟩ := Nat.exists_eq_succ_of_ne_zero (Nat.ne_zero_of_lt hfuel)
    rw [greedily_succ, quotedRound_eq]
    rfl
  | case2 r =>
    obtain ⟨fuel, rfl⟩ := Nat.exists_eq_succ_of_ne_zero (Nat.ne_zero_of_lt hfuel)
    rw [greedily_succ, quotedRound_plain hquote, if_pos List.mem_cons_self, Option.none_or,
      literal_cons, if_pos rfl]
    rfl
  | case3 hne =>
    obtain ⟨fuel, rfl⟩ := Nat.exists_eq_succ_of_ne_zero (Nat.ne_zero_of_lt hfuel)
    rw [greedily_succ, quotedRound_cut, literal_cons, if_neg hquote]
    rfl
  | case4 d r hne ih =>
    obtain ⟨fuel, rfl⟩ := Nat.exists_eq_succ_of_ne_zero (Nat.ne_zero_of_lt hfuel)
    have hlength : r.length < fuel := by
      simp only [List.length_cons] at hfuel
      omega
    have hoffset : offset + 2 ≠ offset := by omega
    rw [greedily_succ, quotedRound_escaped, if_neg hoffset, ih hlength, literal_cons,
      if_neg hquote, Option.or_none, Option.bind_map]
    refine Option.bind_congr fun e _ => ?_
    rw [Function.comp_apply, ← Place.behind_cons, ← Place.behind_cons]
  | case5 c r hne hescape hc ih =>
    obtain ⟨fuel, rfl⟩ := Nat.exists_eq_succ_of_ne_zero (Nat.ne_zero_of_lt hfuel)
    have hmem : c ∉ quote :: more := by
      simpa [hne] using (hadmitted c).mp hc
    rw [greedily_succ, quotedRound_plain hescape, if_neg hmem, if_neg (Nat.succ_ne_self offset),
      ih (Nat.lt_of_succ_lt_succ hfuel), literal_cons, if_neg (Ne.symm hne), Option.or_none,
      Option.bind_map]
    refine Option.bind_congr fun e _ => ?_
    rw [Function.comp_apply, ← Place.behind_cons]
  | case6 c r hne hescape hc =>
    obtain ⟨fuel, rfl⟩ := Nat.exists_eq_succ_of_ne_zero (Nat.ne_zero_of_lt hfuel)
    have hmem : c ∈ quote :: more := by
      simpa [hne] using mt (hadmitted c).mpr hc
    rw [greedily_succ, quotedRound_plain hescape, if_pos hmem, literal_cons,
      if_neg (Ne.symm hne)]
    rfl

theorem finds_quotedTail {admitted : Code → Bool} (hquote : quote ≠ '\\')
    (hadmitted : ∀ c, admitted c = true ↔ c ∉ more) :
    Finds (sequenceMatcher groups dotAll (quotedTail quote more)) (quotedEnd? quote admitted) :=
  fun p s k _ => greedily_quotedRound hquote hadmitted (Nat.lt_add_of_pos_right (by decide)) s k

/-! ### Addresses, lines and blocks -/

theorem closed?_eq (last : Code) (t : Text) :
    closed? last t = ((t.dropWhile (· ≠ last)).head?).map fun c =>
      (t.takeWhile (· ≠ last) ++ [c], (t.dropWhile (· ≠ last)).tail) := by
  induction t with
  | nil => rfl
  | cons c r ih =>
    by_cases hc : c = last
    · subst hc
      simp [closed?]
    · simp [closed?, hc, ih, Segment.after, Function.comp_def]

theorem set_one_eq (last : Code) :
    (Node.set true [.one last]).matcher groups dotAll = .one fun c => decide (c ≠ last) := by
  funext p s k
  obtain ⟨before, t, offset⟩ := p
  cases t with
  | nil => rfl
  | cons c r =>
    have hset : (Node.set true [.one last]).matcher groups dotAll ⟨before, c :: r, offset⟩ s k = _ :=
      set_one_cons [last] before c r offset s k
    rw [hset, one_cons]
    by_cases hc : c = last <;> simp [hc]

theorem space_eq :
    (Node.set false [.category .space false]).matcher groups dotAll = .one Code.isBlank := by
  rw [Node.matcher]
  congr
  funext c
  simp [SetItem.has, Category.has, dotAll]

theorem sequenceMatcher_singleton (n : Node) :
    sequenceMatcher groups dotAll [n] = n.matcher groups dotAll :=
  rfl

theorem greedyNode_eq (body : List Node) (p : Place) (s : Captures)
    (k : Place → Captures → Option Found) :
    (Node.repetition .greedy 0 none body).matcher groups dotAll p s k =
      Matcher.greedily (sequenceMatcher groups dotAll body) (p.after.length + 2) none p s k :=
  rfl

theorem finds_lineTail :
    Finds (sequenceMatcher groups dotAll lineTail) fun t => some (lineEnd t) := by
  intro p s k hk
  obtain ⟨before, t, offset⟩ := p
  rw [lineTail, sequenceMatcher_singleton, greedyNode_eq, sequenceMatcher_singleton, set_one_eq]
  exact greedily_one (Nat.lt_add_of_pos_right Nat.two_pos) (.inl (hk _ rfl))

theorem literal_of_ne {a c : Code} {r : Text} {p : Place} (hp : p.after = c :: r) (hc : a ≠ c)
    (s : Captures) (k : Place → Captures → Option Found) :
    (Node.literal a).matcher groups dotAll p s k = none := by
  obtain ⟨before, t, offset⟩ := p
  cases hp
  rw [literal_cons, if_neg hc]

/-- A code point with everything that stands in front of it. -/
theorem closing_eq (last : Code) (before t : Text) (offset : Nat) (s : Captures)
    (k : Place → Captures → Option Found) :
    sequenceMatcher groups dotAll
        [.repetition .greedy 0 none [.set true [.one last]], .literal last]
        ⟨before, t, offset⟩ s k =
      (closed? last t).bind fun d => k (Place.behind ⟨before, t, offset⟩ d) s := by
  rw [sequenceMatcher, sequenceMatcher_singleton, Matcher.andThen, greedyNode_eq,
    sequenceMatcher_singleton, set_one_eq, closed?_eq,
    greedily_one (Nat.lt_add_of_pos_right Nat.two_pos)]
  · cases hrest : t.dropWhile (· ≠ last) with
    | nil => rfl
    | cons c r =>
      have hc : last = c := by
        have hnot := List.head?_dropWhile_not (· ≠ last) t
        rw [hrest] at hnot
        exact (not_not.mp (of_decide_eq_false hnot)).symm
      have hplace := Place.behind_behind ⟨before, t, offset⟩ (t.takeWhile (· ≠ last), c :: r) ([c], r)
      rw [Place.behind, literal_cons, if_pos hc]
      exact congrArg (k · s) hplace
  · refine .inr fun q c r u hq hc => literal_of_ne hq (Ne.symm ?_) u k
    simpa using hc

theorem lazily_commentEnd {t before : Text} {offset fuel : Nat} (hfuel : t.length < fuel)
    (s : Captures) (k : Place → Captures → Option Found)
    (hk : ∀ d, commentEnd? t = some d → (k (Place.behind ⟨before, t, offset⟩ d) s).isSome = true) :
    Matcher.lazily (.one fun _ => true) fuel none ⟨before, t, offset⟩ s
        (fun q u => sequenceMatcher groups dotAll [.literal '*', .literal '/'] q u k) =
      (commentEnd? t).bind fun d => k (Place.behind ⟨before, t, offset⟩ d) s := by
  fun_induction commentEnd? t generalizing before offset fuel with
  | case1 c d r hend =>
    obtain ⟨fuel, rfl⟩ := Nat.exists_eq_succ_of_ne_zero (Nat.ne_zero_of_lt hfuel)
    obtain ⟨rfl, rfl⟩ := hend
    rw [lazily_succ, sequenceMatcher, Matcher.andThen, literal_cons, if_pos rfl,
      sequenceMatcher_singleton, literal_cons, if_pos rfl]
    exact Option.or_of_isSome (hk _ rfl)
  | case2 c d r hend ih =>
    obtain ⟨fuel, rfl⟩ := Nat.exists_eq_succ_of_ne_zero (Nat.ne_zero_of_lt hfuel)
    have hnone : sequenceMatcher groups dotAll [.literal '*', .literal '/']
        ⟨before, c :: d :: r, offset⟩ s k = none := by
      rw [sequenceMatcher, Matcher.andThen, literal_cons]
      split
      · next hc =>
        rw [sequenceMatcher_singleton, literal_cons, if_neg]
        exact fun hd => hend ⟨hc.symm, hd.symm⟩
      · rfl
    rw [lazily_succ, hnone, Option.none_or, one_cons, if_pos rfl, if_neg (Nat.succ_ne_self offset),
      ih (Nat.lt_of_succ_lt_succ hfuel), Option.bind_map]
    · refine Option.bind_congr fun e _ => ?_
      rw [Function.comp_apply, ← Place.behind_cons]
    · intro e he
      rw [Place.behind_cons]
      exact hk _ (Option.map_eq_some_iff.mpr ⟨e, he, rfl⟩)
  | case3 t hshort =>
    obtain ⟨fuel, rfl⟩ := Nat.exists_eq_succ_of_ne_zero (Nat.ne_zero_of_lt hfuel)
    rw [lazily_succ]
    cases t with
    | nil => rfl
    | cons c r =>
      cases r with
      | cons d r => exact absurd rfl (hshort c d r)
      | nil =>
        obtain ⟨fuel, rfl⟩ :=
          Nat.exists_eq_succ_of_ne_zero (Nat.ne_zero_of_lt (Nat.lt_of_succ_lt_succ hfuel))
        rw [one_cons, if_pos rfl, if_neg (Nat.succ_ne_self offset), lazily_succ, sequenceMatcher,
          Matcher.andThen, literal_cons]
        split <;> rfl

theorem finds_blockTail : Finds (sequenceMatcher groups dotAll blockTail) commentEnd? := by
  intro p s k hk
  exact lazily_commentEnd (Nat.lt_add_of_pos_right Nat.two_pos) s k hk

theorem urlStart_cons (ns : List Node) (before : Text) (c : Code) (r : Text) (offset : Nat)
    (s : Captures) (k : Place → Captures → Option Found) :
    sequenceMatcher groups dotAll
        (.set true [.category .space false, .one '"', .one '\'', .one ')'] :: ns)
        ⟨before, c :: r, offset⟩ s k =
      if c.isBlank = true ∨ c = '"' ∨ c = '\'' ∨ c = ')' then none
      else sequenceMatcher groups dotAll ns ⟨c :: before, r, offset + 1⟩ s k := by
  have hmem : ([.category .space false, .one '"', .one '\'', .one ')'] : List SetItem).any
      (·.has dotAll c) = decide (c.isBlank = true ∨ c = '"' ∨ c = '\'' ∨ c = ')') := by
    simp [SetItem.has, Category.has, sameLetter, dotAll, Bool.beq_eq_decide_eq, eq_comm (b := c)]
  rw [sequenceMatcher, Matcher.andThen, Node.matcher, one_cons, hmem]
  split <;> split <;> simp_all

theorem finds_urlTail : Finds (sequenceMatcher groups dotAll urlTail) urlEnd? := by
  intro p s k hk
  obtain ⟨before, t, offset⟩ := p
  rw [urlTail, sequenceMatcher, Matcher.andThen, greedyNode_eq, sequenceMatcher_singleton, space_eq,
    greedily_one (Nat.lt_add_of_pos_right Nat.two_pos)]
  · rw [urlEnd?]
    dsimp only
    cases hrest : t.dropWhile Code.isBlank with
    | nil => rfl
    | cons c r =>
      have hc : c.isBlank = false := by
        have hnot := List.head?_dropWhile_not Code.isBlank t
        rw [hrest] at hnot
        exact hnot
      rw [Place.behind, urlStart_cons, closing_eq, hc]
      simp only [Bool.false_eq_true, false_or]
      split
      · rfl
      · rw [Option.bind_map]
        refine Option.bind_congr fun d _ => congrArg (k · s) ?_
        simp only [Place.behind, List.reverse_append, List.reverse_cons, List.append_assoc,
          List.length_append, List.length_cons, List.cons_append, List.nil_append, Nat.add_assoc,
          Nat.add_comm 1]
  · refine .inr fun q c r u hq hc => ?_
    obtain ⟨before, t, offset⟩ := q
    cases hq
    rw [urlStart_cons, if_pos (.inl hc)]

/-! ### All alternatives -/

/-- An opener with the kind of its segments and what it finds. -/
abbrev Opener := SegmentKind × Text × (Text → Option Split)

def Follows (groups : List Width) (ns : List Node) (o : Opener) : Prop :=
  Finds (sequenceMatcher groups dotAll ns) fun t =>
    (opened? o.1 o.2.1 t o.2.2).map fun x => (x.1.text, x.2)

theorem follows_openedBy {tail : List Node} (k : SegmentKind) (opener : Text)
    (h : Finds (sequenceMatcher groups dotAll tail) rest?) :
    Follows groups (openedBy opener tail) (k, opener, rest?) := by
  have hfind := finds_opener opener h
  have heq : (fun t : Text => (opened? k opener t rest?).map fun x => (x.1.text, x.2)) = fun t =>
      (t.dropPrefix? opener).bind fun r => (rest? r).map fun d => (opener ++ d.1, d.2) := by
    funext t
    simp only [opened?, Option.map_bind, Function.comp_def, Option.map_map]
  rw [Follows, openedBy, heq]
  exact hfind

theorem finds_branch {bodies : List (List Node)} {os : List Opener}
    (h : List.Forall₂ (Follows groups) bodies os) :
    Finds (branchMatcher groups dotAll bodies) fun t =>
      (os.findSome? fun o => opened? o.1 o.2.1 t o.2.2).map fun x => (x.1.text, x.2) := by
  induction h with
  | nil =>
    intro p s k _
    rfl
  | @cons b o bodies os hb _ ih =>
    have heq : (fun t : Text => ((o :: os).findSome? fun o => opened? o.1 o.2.1 t o.2.2).map
        fun x => (x.1.text, x.2)) = fun t =>
          ((opened? o.1 o.2.1 t o.2.2).map fun x => (x.1.text, x.2)).or
          ((os.findSome? fun o => opened? o.1 o.2.1 t o.2.2).map fun x => (x.1.text, x.2)) := by
      funext t
      rw [List.findSome?_cons]
      cases opened? o.1 o.2.1 t o.2.2 <;> rfl
    rw [heq, branchMatcher]
    exact hb.orElse ih

theorem forall₂_keptNodes (groups : List Width) (type : ResourceType) :
    List.Forall₂ (Follows groups) (keptNodes type) (openers type).dropLast := by
  have hline : ∀ c, decide (c ≠ lineFeed) = true ↔ c ∉ [('\n' : Code)] := by
    intro c
    rw [decide_eq_true_iff, List.mem_singleton]
    rfl
  have hstring (quote : Code) (h : quote ≠ '\\') :
      Follows groups (openedBy [quote] (quotedTail quote ['\n']))
        (.literal, [quote], quotedEnd? quote (· ≠ lineFeed)) :=
    follows_openedBy .literal [quote] (finds_quotedTail h hline)
  have hlicence : Follows groups (openedBy "/*!" blockTail) (.licence, "/*!", commentEnd?) :=
    follows_openedBy .licence "/*!" finds_blockTail
  cases type with
  | css =>
    have hurl : Follows groups (openedBy "url(" urlTail) (.url, "url(", urlEnd?) :=
      follows_openedBy .url "url(" finds_urlTail
    exact .cons (hstring '\'' (by decide)) (.cons (hstring '"' (by decide))
      (.cons hurl (.cons hlicence .nil)))
  | js =>
    have htemplate : Follows groups (openedBy "\x60" (quotedTail (Code.ofNat 0x60) []))
        (.template, "\x60", quotedEnd? (Code.ofNat 0x60) fun _ => true) :=
      follows_openedBy .template "\x60" (finds_quotedTail (by decide) (by simp))
    have hcomment : Follows groups (openedBy "//" lineTail)
        (.lineComment, "//", fun t => some (lineEnd t)) :=
      follows_openedBy .lineComment "//" finds_lineTail
    exact .cons (hstring '\'' (by decide)) (.cons (hstring '"' (by decide))
      (.cons htemplate (.cons hcomment (.cons hlicence .nil))))

end Pattern

end WebLint
