import WebLint.Proofs.Comments.Shape
import WebLint.Stage.Builtin

namespace WebLint

def SegmentKind.rank : SegmentKind → Nat
  | literal => 0
  | url => 1
  | template => 2
  | lineComment => 3
  | licence => 4
  | comment => 5
  | plain => 6

theorem SegmentKind.rank_injective : Function.Injective rank := by
  intro k k' h
  cases k <;> cases k' <;> first | rfl | cases h

namespace Segment

def Starts (type : ResourceType) (k : SegmentKind) (t : Text) : Prop :=
  ∃ text rest, Shape type k text rest ∧ t = text ++ rest

/-- The segment has the shape of its kind, and no kind that is tried before starts there. -/
structure Leads (type : ResourceType) (s : Segment) (rest : Text) : Prop where
  shape : Shape type s.kind s.text rest
  first : ∀ k : SegmentKind, k.rank < s.kind.rank → ¬ Starts type k (s.text ++ rest)

/-- The segments of a text from left to right. -/
inductive Segmentation (type : ResourceType) : Text → List Segment → Prop
  | nil : Segmentation type [] []
  | cons {s : Segment} {rest : Text} {ss : List Segment} (hs : Leads type s rest)
    (hss : Segmentation type rest ss) : Segmentation type (s.text ++ rest) (s :: ss)

/-! ### At most one -/

/-- Where a search finds all of a part behind an opener, the part is determined. -/
theorem part_unique {f : Text → Option Split} (opener : Text) {a a' rest rest' : Text}
    (h : f (a ++ rest) = some (a, rest)) (h' : f (a' ++ rest') = some (a', rest'))
    (he : opener ++ a ++ rest = opener ++ a' ++ rest') : opener ++ a = opener ++ a' := by
  rw [List.append_assoc, List.append_assoc, List.append_cancel_left_eq] at he
  rw [he, h'] at h
  rw [(Prod.mk.inj (Option.some.inj h)).1]

theorem quote_ne_escape {quote : Code} (h : quote = '\'' ∨ quote = '"') : quote ≠ '\\' := by
  rcases h with rfl | rfl <;> decide

theorem Shape.text_unique {type : ResourceType} {k : SegmentKind} {text text' rest rest' : Text}
    (h : Shape type k text rest) (h' : Shape type k text' rest')
    (he : text ++ rest = text' ++ rest') : text = text' := by
  cases h with
  | literal hquote h =>
    cases h' with
    | literal hquote' h' =>
      obtain rfl := (List.cons.inj he).1
      exact part_unique [_] (quotedEnd?_of_inside (quote_ne_escape hquote) h rest)
        (quotedEnd?_of_inside (quote_ne_escape hquote) h' rest') he
  | url hblanks hblank hc hbody =>
    cases h' with
    | url hblanks' hblank' hc' hbody' =>
      exact part_unique "url(" (urlEnd?_of_blanks hblanks hblank hc hbody rest)
        (urlEnd?_of_blanks hblanks' hblank' hc' hbody' rest') he
  | template h =>
    cases h' with
    | template h' =>
      have hescape : Code.ofNat 0x60 ≠ '\\' := by decide
      exact part_unique [_] (quotedEnd?_of_inside hescape h rest)
        (quotedEnd?_of_inside hescape h' rest') he
  | lineComment hline hrest =>
    cases h' with
    | lineComment hline' hrest' =>
      exact part_unique "//" (f := fun t => some (lineEnd t))
        (congrArg some (lineEnd_of_not_mem hline hrest))
        (congrArg some (lineEnd_of_not_mem hline' hrest')) he
  | licence h =>
    cases h' with
    | licence h' =>
      exact part_unique "/*!" (commentEnd?_of_endsComment h rest)
        (commentEnd?_of_endsComment h' rest') he
  | comment h =>
    cases h' with
    | comment h' =>
      exact part_unique "/*" (commentEnd?_of_endsComment h rest)
        (commentEnd?_of_endsComment h' rest') he
  | plain =>
    cases h' with
    | plain => exact congrArg (fun c => [c]) (List.cons.inj he).1

theorem Leads.unique {type : ResourceType} {s s' : Segment} {rest rest' : Text}
    (h : Leads type s rest) (h' : Leads type s' rest') (he : s.text ++ rest = s'.text ++ rest') :
    s = s' ∧ rest = rest' := by
  have hkind : s.kind = s'.kind := by
    apply SegmentKind.rank_injective
    rcases Nat.lt_trichotomy s.kind.rank s'.kind.rank with hlt | heq | hlt
    · exact absurd ⟨s.text, rest, h.shape, he.symm⟩ (h'.first _ hlt)
    · exact heq
    · exact absurd ⟨s'.text, rest', h'.shape, he⟩ (h.first _ hlt)
  have htext : s.text = s'.text := (hkind ▸ h.shape).text_unique h'.shape he
  obtain ⟨k, text⟩ := s
  obtain ⟨k', text'⟩ := s'
  cases hkind
  cases htext
  exact ⟨rfl, List.append_cancel_left he⟩

theorem Segmentation.unique {type : ResourceType} {t : Text} {ss ss' : List Segment}
    (h : Segmentation type t ss) (h' : Segmentation type t ss') : ss = ss' := by
  induction h generalizing ss' with
  | nil =>
    generalize ht : ([] : Text) = t at h'
    cases h' with
    | nil => rfl
    | cons hs _ => exact absurd (List.append_eq_nil_iff.mp ht.symm).1 hs.shape.ne_nil
  | @cons s rest ss hs _ ih =>
    generalize ht : s.text ++ rest = t at h'
    cases h' with
    | nil => exact absurd (List.append_eq_nil_iff.mp ht).1 hs.shape.ne_nil
    | cons hs' hss' =>
      obtain ⟨rfl, rfl⟩ := hs.unique hs' ht
      rw [ih hss']

/-! ### The one that is found -/

theorem opened?_eq_some_iff {k : SegmentKind} {opener t rest : Text} {f : Text → Option Split}
    {s : Segment} :
    opened? k opener t f = some (s, rest) ↔
      ∃ a r, t = opener ++ r ∧ f r = some (a, rest) ∧ s = ⟨k, opener ++ a⟩ := by
  simp only [opened?, Option.bind_eq_some_iff, Option.map_eq_some_iff, Text.dropPrefix?_eq_some_iff]
  constructor
  · rintro ⟨r, rfl, ⟨a, rest'⟩, hf, he⟩
    cases he
    exact ⟨a, r, rfl, hf, rfl⟩
  · rintro ⟨a, r, rfl, hf, rfl⟩
    exact ⟨r, rfl, (a, rest), hf, rfl⟩

theorem mem_openers {type : ResourceType} {o : SegmentKind × Text × (Text → Option Split)} :
    o ∈ openers type ↔
      o = (SegmentKind.literal, Text.ofString "'", quotedEnd? '\'' (· ≠ lineFeed)) ∨
      o = (SegmentKind.literal, Text.ofString "\"", quotedEnd? '"' (· ≠ lineFeed)) ∨
      (type = .css ∧ o = (SegmentKind.url, Text.ofString "url(", urlEnd?)) ∨
      (type = .js ∧
        o = (SegmentKind.template, Text.ofString "\x60",
          quotedEnd? (Code.ofNat 0x60) fun _ => true)) ∨
      (type = .js ∧
        o = (SegmentKind.lineComment, Text.ofString "//", fun r => some (lineEnd r))) ∨
      o = (SegmentKind.licence, Text.ofString "/*!", commentEnd?) ∨
      o = (SegmentKind.comment, Text.ofString "/*", commentEnd?) := by
  cases type <;> simp [openers, openers.backquote]

theorem openers_sorted (type : ResourceType) :
    (openers type).Pairwise fun o o' => o.1.rank ≤ o'.1.rank := by
  cases type <;> simp [openers, SegmentKind.rank]

theorem shape_of_opened? {type : ResourceType} {o : SegmentKind × Text × (Text → Option Split)}
    (ho : o ∈ openers type) {t rest : Text} {s : Segment}
    (h : opened? o.1 o.2.1 t o.2.2 = some (s, rest)) :
    s.kind = o.1 ∧ Shape type s.kind s.text rest ∧ t = s.text ++ rest := by
  obtain ⟨a, r, rfl, hf, rfl⟩ := opened?_eq_some_iff.mp h
  refine ⟨rfl, ?_⟩
  rcases mem_openers.mp ho with rfl | rfl | ⟨rfl, rfl⟩ | ⟨rfl, rfl⟩ | ⟨rfl, rfl⟩ | rfl | rfl
  · obtain ⟨body, hbody, rfl, rfl⟩ := inside_of_quotedEnd? hf
    exact ⟨.literal (.inl rfl) hbody, rfl⟩
  · obtain ⟨body, hbody, rfl, rfl⟩ := inside_of_quotedEnd? hf
    exact ⟨.literal (.inr rfl) hbody, rfl⟩
  · obtain ⟨blanks, body, c, hblanks, hblank, hc, hbody, rfl, rfl⟩ := blanks_of_urlEnd? hf
    exact ⟨.url hblanks hblank hc hbody, rfl⟩
  · obtain ⟨body, hbody, rfl, rfl⟩ := inside_of_quotedEnd? hf
    exact ⟨.template hbody, rfl⟩
  · obtain ⟨hline, hrest, hr⟩ := lineEnd_spec r
    rw [Option.some.inj hf] at hline hrest hr
    exact ⟨.lineComment hline hrest, congrArg _ hr⟩
  · obtain ⟨hends, rfl⟩ := endsComment_of_commentEnd? hf
    exact ⟨.licence hends, rfl⟩
  · obtain ⟨hends, rfl⟩ := endsComment_of_commentEnd? hf
    exact ⟨.comment hends, rfl⟩

theorem opened?_of_part {type : ResourceType} {k : SegmentKind} {opener a rest : Text}
    {f : Text → Option Split} (ho : (k, opener, f) ∈ openers type)
    (hf : f (a ++ rest) = some (a, rest)) :
    ∃ o ∈ openers type, o.1 = k ∧
      opened? o.1 o.2.1 (opener ++ a ++ rest) o.2.2 = some (⟨k, opener ++ a⟩, rest) := by
  refine ⟨_, ho, rfl, opened?_eq_some_iff.mpr ⟨a, a ++ rest, ?_, hf, rfl⟩⟩
  exact List.append_assoc opener a rest

/-- Where a segment other than a single code point starts, its opener finds it. -/
theorem opened?_of_shape {type : ResourceType} {k : SegmentKind} {text rest : Text}
    (h : Shape type k text rest) (hk : k ≠ .plain) :
    ∃ o ∈ openers type, o.1 = k ∧
      opened? o.1 o.2.1 (text ++ rest) o.2.2 = some (⟨k, text⟩, rest) := by
  cases h with
  | literal hquote h =>
    have hf := quotedEnd?_of_inside (quote_ne_escape hquote) h rest
    rcases hquote with rfl | rfl
    · exact opened?_of_part (mem_openers.mpr (.inl rfl)) hf
    · exact opened?_of_part (mem_openers.mpr (.inr (.inl rfl))) hf
  | url hblanks hblank hc hbody =>
    have ho : (SegmentKind.url, Text.ofString "url(", urlEnd?) ∈ openers .css :=
      mem_openers.mpr (by simp)
    exact opened?_of_part ho (urlEnd?_of_blanks hblanks hblank hc hbody rest)
  | template h =>
    have ho : (SegmentKind.template, Text.ofString "\x60",
        quotedEnd? (Code.ofNat 0x60) fun _ => true) ∈ openers .js := mem_openers.mpr (by simp)
    exact opened?_of_part ho (quotedEnd?_of_inside (by decide) h rest)
  | lineComment hline hrest =>
    have ho : (SegmentKind.lineComment, Text.ofString "//", fun r => some (lineEnd r)) ∈
        openers .js := mem_openers.mpr (by simp)
    exact opened?_of_part ho (congrArg some (lineEnd_of_not_mem hline hrest))
  | licence h =>
    have ho : (SegmentKind.licence, Text.ofString "/*!", commentEnd?) ∈ openers type :=
      mem_openers.mpr (by simp)
    exact opened?_of_part ho (commentEnd?_of_endsComment h rest)
  | comment h =>
    have ho : (SegmentKind.comment, Text.ofString "/*", commentEnd?) ∈ openers type :=
      mem_openers.mpr (by simp)
    exact opened?_of_part ho (commentEnd?_of_endsComment h rest)
  | plain => exact absurd rfl hk

theorem ne_plain_of_rank_lt {k k' : SegmentKind} (h : k'.rank < k.rank) : k' ≠ .plain := by
  rintro rfl
  cases k <;> exact absurd h (by decide)

theorem first_leads (type : ResourceType) (c : Code) (r : Text) :
    c :: r = (first type c r).1.text ++ (first type c r).2 ∧
      Leads type (first type c r).1 (first type c r).2 := by
  unfold first
  split
  · next x hx =>
    obtain ⟨before, o, behind, hsplit, ho, hbefore⟩ := List.findSome?_eq_some_iff.mp hx
    have hmem : o ∈ openers type := by
      rw [hsplit]
      exact List.mem_append_right before List.mem_cons_self
    obtain ⟨hkind, hshape, ht⟩ := shape_of_opened? hmem ho
    refine ⟨ht, hshape, ?_⟩
    rintro k hk ⟨text, rest, hstart, he⟩
    obtain ⟨o', ho', rfl, hfound⟩ := opened?_of_shape hstart (ne_plain_of_rank_lt hk)
    rw [← he, ← ht] at hfound
    -- an opener of a kind tried before stands before the one that was found, which failed there
    have hsorted := openers_sorted type
    rw [hsplit] at hsorted ho'
    rw [hkind] at hk
    rcases List.mem_append.mp ho' with hmem | hmem
    · rw [hbefore o' hmem] at hfound
      cases hfound
    · rcases List.mem_cons.mp hmem with rfl | hmem
      · exact Nat.lt_irrefl _ hk
      · have hle := List.rel_of_pairwise_cons (List.pairwise_append.mp hsorted).2.1 hmem
        exact Nat.not_le_of_lt hk hle
  · next hnone =>
    refine ⟨rfl, .plain, ?_⟩
    rintro k hk ⟨text, rest, hstart, he⟩
    obtain ⟨o, ho, _, hfound⟩ := opened?_of_shape hstart (ne_plain_of_rank_lt hk)
    have hfails := List.findSome?_eq_none_iff.mp hnone o ho
    rw [← he] at hfound
    cases hfails.symm.trans hfound

theorem segmentsFrom_eq_drop (type : ResourceType) (n : Nat) (t : Text) :
    segmentsFrom type n t = segmentsFrom type 0 (t.drop n) := by
  induction t generalizing n with
  | nil => cases n <;> rfl
  | cons c r ih =>
    cases n with
    | zero => rfl
    | succ n => exact ih n

theorem segments_of_leads {type : ResourceType} {s : Segment} {rest : Text}
    (h : Leads type s rest) : (s.text ++ rest).segments type = s :: rest.segments type := by
  obtain ⟨c, r, ht⟩ := List.exists_cons_of_ne_nil h.shape.ne_nil
  obtain ⟨he, hfirst⟩ := first_leads type c (r ++ rest)
  have hs : (first type c (r ++ rest)).1 = s := by
    refine (hfirst.unique h ?_).1
    rw [← he, ht, List.cons_append]
  have hdrop : (r ++ rest).drop (s.text.length - 1) = rest := by
    rw [ht, List.length_cons, Nat.add_sub_cancel, List.drop_left]
  calc (s.text ++ rest).segments type = segmentsFrom type 0 (c :: (r ++ rest)) := by
        rw [ht, List.cons_append, Text.segments]
    _ = s :: segmentsFrom type (s.text.length - 1) (r ++ rest) := by rw [segmentsFrom, hs]
    _ = s :: rest.segments type := by rw [segmentsFrom_eq_drop, hdrop, Text.segments]

theorem segmentation_segments (type : ResourceType) (t : Text) :
    Segmentation type t (t.segments type) := by
  induction h : t.length using Nat.strong_induction_on generalizing t with
  | _ n ih =>
    cases t with
    | nil => exact .nil
    | cons c r =>
      obtain ⟨he, hfirst⟩ := first_leads type c r
      have hne := List.length_pos_iff.mpr hfirst.shape.ne_nil
      have hlength := congrArg List.length he
      rw [List.length_append] at hlength
      rw [he, segments_of_leads hfirst]
      exact .cons hfirst (ih _ (by omega) _ rfl)

theorem Segmentation.flatMap_text {type : ResourceType} {t : Text} {ss : List Segment}
    (h : Segmentation type t ss) : ss.flatMap (·.text) = t := by
  induction h with
  | nil => rfl
  | cons _ _ ih => rw [List.flatMap_cons, ih]

theorem EndsComment.of_cons {c : Code} {t : Text} (h : EndsComment (c :: t)) (hc : c ≠ star) :
    EndsComment t := by
  obtain ⟨body, he, hbody⟩ := h
  cases body with
  | nil => exact absurd (List.cons.inj he).1 hc
  | cons x body =>
    obtain ⟨rfl, rfl⟩ := List.cons.inj he
    exact ⟨body, rfl, fun hinfix => hbody (List.infix_cons hinfix)⟩

theorem Leads.not_licence_of_comment {type : ResourceType} {s : Segment} {rest : Text}
    (h : Leads type s rest) (hkind : s.kind = .comment) : ¬ Text.ofString "/*!" <+: s.text := by
  rintro ⟨r, hr⟩
  obtain ⟨k, text⟩ := s
  cases hkind
  obtain ⟨hshape, hfirst⟩ := h
  cases hshape with
  | @comment _ body _ hends =>
    obtain rfl : (('!' : Char) : Code) :: r = body := (List.cons.inj (List.cons.inj hr).2).2
    have hrank : SegmentKind.licence.rank < SegmentKind.comment.rank := by decide
    exact hfirst .licence hrank ⟨_, rest, .licence (hends.of_cons (by decide)), rfl⟩

theorem Segmentation.exists_leads {type : ResourceType} {t : Text} {ss : List Segment}
    (h : Segmentation type t ss) {s : Segment} (hs : s ∈ ss) : ∃ rest, Leads type s rest := by
  induction h with
  | nil => cases hs
  | @cons _ rest _ hleads _ ih =>
    rcases List.mem_cons.mp hs with rfl | hs
    · exact ⟨rest, hleads⟩
    · exact ih hs

theorem Segmentation.endsComment {type : ResourceType} {t : Text} {ss : List Segment}
    (h : Segmentation type t ss) {s : Segment} (hs : s ∈ ss) (hkind : s.kind = .comment) :
    ∃ body, EndsComment body ∧ s.text = Text.ofString "/*" ++ body := by
  obtain ⟨rest, hshape, -⟩ := h.exists_leads hs
  obtain ⟨k, text⟩ := s
  cases hkind
  cases hshape with
  | comment hends => exact ⟨_, hends, rfl⟩

end Segment

/-- Stripping the comments: the text has exactly one segmentation, and what is left are the
segments in their order that are no comments. A comment that is dropped is closed, and licence
blocks are not among those. -/
theorem process_stripComments {σ : Type} (uri : Text) (type : ResourceType) (t : Text) (m : σ) :
    ∃ ss : List Segment, (∀ ss', Segment.Segmentation type t ss' ↔ ss' = ss) ∧
      ss.flatMap (·.text) = t ∧
      (∀ s ∈ ss, s.kind = .comment →
        (∃ body, Segment.EndsComment body ∧ s.text = Text.ofString "/*" ++ body) ∧
          ¬ Text.ofString "/*!" <+: s.text) ∧
      Builtin.stripComments.stage.process ⟨uri, type, true⟩ t m =
        ⟨.ok (.text ((ss.filter (·.kind ≠ .comment)).flatMap (·.text))), m, []⟩ := by
  have h := Segment.segmentation_segments type t
  refine ⟨t.segments type, ?_, h.flatMap_text, ?_, ?_⟩
  · intro ss'
    exact ⟨fun h' => h'.unique h, fun he => he ▸ h⟩
  · intro s hs hkind
    obtain ⟨rest, hleads⟩ := h.exists_leads hs
    exact ⟨h.endsComment hs hkind, hleads.not_licence_of_comment hkind⟩
  · cases type <;> rfl

example : ("a'/*'/*!b*//*c*/`/*" : Text).withoutComments .css = "a'/*'/*!b*/`/*" := by
  cbv

end WebLint
