import WebLint.Proofs.Comments.Segmentation

namespace WebLint

def SegmentKind.family : SegmentKind → SegmentKind
  | licence => comment
  | k => k

namespace Segment

variable {type : ResourceType} {k k' : SegmentKind} {text rest rest' : Text}

/-! ### What follows a segment -/

theorem Shape.of_rest (h : Shape type k text rest)
    (hline : k = .lineComment → rest' = [] ∨ rest'.head? = some lineFeed) :
    Shape type k text rest' := by
  cases h with
  | literal hquote h => exact .literal hquote h
  | url hblanks hblank hc hbody => exact .url hblanks hblank hc hbody
  | template h => exact .template h
  | lineComment h _ => exact .lineComment h (hline rfl)
  | licence h => exact .licence h
  | comment h => exact .comment h
  | plain => exact .plain

def openedFamily : Text → SegmentKind
  | c :: d :: _ =>
    if c = '\'' ∨ c = '"' then .literal
    else if c = 'u' then .url
    else if c = Code.ofNat 0x60 then .template
    else if c = solidus ∧ d = solidus then .lineComment
    else if c = solidus ∧ d = star then .comment
    else .plain
  | _ => .plain

theorem Shape.openedFamily_append (h : Shape type k text rest) (hk : k ≠ .plain) (t : Text) :
    openedFamily (text ++ t) = k.family := by
  cases h with
  | @literal _ quote body _ hquote _ =>
    obtain ⟨d, r, hr⟩ : ∃ d r, body ++ [quote] ++ t = d :: r := by
      cases body <;> exact ⟨_, _, rfl⟩
    rw [List.cons_append, hr, openedFamily, if_pos hquote]
    rfl
  | url => rfl
  | @template body _ _ =>
    obtain ⟨d, r, hr⟩ : ∃ d r, body ++ [Code.ofNat 0x60] ++ t = d :: r := by
      cases body <;> exact ⟨_, _, rfl⟩
    rw [List.cons_append, hr]
    rfl
  | lineComment => rfl
  | licence => rfl
  | comment => rfl
  | plain => exact absurd rfl hk

/-- What opens a text at all opens it in its own way: no kind that is tried before a segment that
stays can start there, whatever follows. -/
theorem Shape.not_starts (h : Shape type k text rest) (hplain : k ≠ .plain) (hk : k ≠ .comment)
    (hrank : k'.rank < k.rank) (t : Text) : ¬ Starts type k' (text ++ t) := by
  rintro ⟨text', rest'', h', he⟩
  have hfamily := h.openedFamily_append hplain t
  rw [he, h'.openedFamily_append (ne_plain_of_rank_lt hrank)] at hfamily
  cases k <;> cases k' <;> simp_all [SegmentKind.family, SegmentKind.rank]

theorem Leads.of_rest {s : Segment} (h : Leads type s rest) (hplain : s.kind ≠ .plain)
    (hkind : s.kind ≠ .comment)
    (hline : s.kind = .lineComment → rest' = [] ∨ rest'.head? = some lineFeed) :
    Leads type s rest' :=
  ⟨h.shape.of_rest hline, fun _ hrank => h.shape.not_starts hplain hkind hrank rest'⟩

theorem Shape.eq_plain_of_lineFeed (h : Shape type k (lineFeed :: text) rest) :
    k = .plain ∧ text = [] := by
  have hk : k = .plain := by
    by_contra hk
    have hfamily := h.openedFamily_append hk []
    have hnothing : openedFamily (lineFeed :: (text ++ [])) = .plain := by
      cases text <;> rfl
    rw [List.cons_append, hnothing] at hfamily
    cases k <;> first | exact hk rfl | cases hfamily
  cases hk
  cases h with
  | plain => exact ⟨rfl, rfl⟩

theorem Segmentation.eq_nil {ss : List Segment} (h : Segmentation type [] ss) : ss = [] :=
  h.unique .nil

theorem Segmentation.of_lineFeed {t : Text} {ss : List Segment}
    (h : Segmentation type (lineFeed :: t) ss) :
    ∃ ss', ss = ⟨.plain, [lineFeed]⟩ :: ss' ∧ Segmentation type t ss' := by
  generalize ht : lineFeed :: t = t' at h
  cases h with
  | nil => cases ht
  | @cons s rest ss hs hss =>
    obtain ⟨c, r, hr⟩ := List.exists_cons_of_ne_nil hs.shape.ne_nil
    obtain ⟨k, text⟩ := s
    cases hr
    obtain ⟨rfl, rfl⟩ := List.cons.inj ht
    obtain ⟨rfl, rfl⟩ := hs.shape.eq_plain_of_lineFeed
    exact ⟨ss, rfl, hss⟩

theorem Segmentation.of_append_cons {t : Text} {before after : List Segment} {s : Segment}
    (h : Segmentation type t (before ++ s :: after)) :
    Leads type s (after.flatMap (·.text)) ∧
      Segmentation type (after.flatMap (·.text)) after := by
  induction before generalizing t with
  | nil =>
    cases h with
    | cons hs hss => rw [hss.flatMap_text]; exact ⟨hs, hss⟩
  | cons _ before ih =>
    cases h with
    | cons _ hss => exact ih hss

/-! ### The second reading -/

abbrev left (ss : List Segment) : List Segment :=
  ss.filter (·.kind ≠ .comment)

def Reopens (type : ResourceType) (ss : List Segment) : Prop :=
  ∃ before c after k, ss = before ++ ⟨.plain, [c]⟩ :: after ∧ k ≠ .plain ∧
    Starts type k (c :: (left after).flatMap (·.text))

theorem Reopens.cons {ss : List Segment} (h : Reopens type ss) (s : Segment) :
    Reopens type (s :: ss) := by
  obtain ⟨before, c, after, k, rfl, hk⟩ := h
  exact ⟨s :: before, c, after, k, rfl, hk⟩

theorem Segmentation.line_ends {t : Text} {ss : List Segment} (h : Segmentation type t ss)
    (ht : t = [] ∨ t.head? = some lineFeed) :
    (left ss).flatMap (·.text) = [] ∨ ((left ss).flatMap (·.text)).head? = some lineFeed := by
  cases t with
  | nil =>
    rw [h.eq_nil]
    exact .inl rfl
  | cons c t =>
    obtain rfl : c = lineFeed := by simpa using ht
    obtain ⟨ss', rfl, -⟩ := h.of_lineFeed
    exact .inr rfl

theorem segmentation_left {t : Text} {ss : List Segment} (h : Segmentation type t ss)
    (hreopens : ¬ Reopens type ss) :
    Segmentation type ((left ss).flatMap (·.text)) (left ss) := by
  induction h with
  | nil => exact .nil
  | @cons s rest ss hs hss ih =>
    have htail := ih fun h => hreopens (h.cons s)
    by_cases hcomment : s.kind = .comment
    · rw [left, List.filter_cons_of_neg (by simpa using hcomment)]
      exact htail
    · rw [left, List.filter_cons_of_pos (by simpa using hcomment), List.flatMap_cons]
      refine .cons ?_ htail
      by_cases hplain : s.kind = .plain
      · obtain ⟨k, text⟩ := s
        cases hplain
        cases hs.shape with
        | @plain _ c _ =>
          refine ⟨.plain, fun k hrank hstarts => hreopens ?_⟩
          exact ⟨[], c, ss, k, rfl, ne_plain_of_rank_lt hrank, hstarts⟩
      · refine hs.of_rest hplain hcomment fun hkind => hss.line_ends ?_
        obtain ⟨k, text⟩ := s
        cases hkind
        cases hs.shape with
        | lineComment _ hrest => exact hrest

theorem rank_lt_of_ne_plain (hk : k ≠ .plain) : k.rank < SegmentKind.plain.rank := by
  cases k <;> first | exact absurd rfl hk | decide

theorem segments_withoutComments_iff (type : ResourceType) (t : Text) :
    (t.withoutComments type).segments type = left (t.segments type) ↔
      ¬ Reopens type (t.segments type) := by
  have ht := segmentation_segments type t
  have hsecond := segmentation_segments type (t.withoutComments type)
  constructor
  · rintro hsegments ⟨before, c, after, k, hss, hk, hstarts⟩
    have hstays : left (⟨.plain, [c]⟩ :: after) = ⟨.plain, [c]⟩ :: left after := rfl
    rw [hsegments, hss, left, List.filter_append, ← left, ← left, hstays] at hsecond
    exact hsecond.of_append_cons.1.first k (rank_lt_of_ne_plain hk) hstarts
  · intro hreopens
    exact hsecond.unique (segmentation_left ht hreopens)

theorem length_flatMap_left (ss : List Segment) :
    ((ss.filter (·.kind ≠ .comment)).flatMap (·.text)).length +
        ((ss.filter (·.kind = .comment)).flatMap (·.text)).length =
      (ss.flatMap (·.text)).length := by
  induction ss with
  | nil => rfl
  | cons s ss ih =>
    by_cases hs : s.kind = .comment
    · rw [List.filter_cons_of_neg (by simpa using hs), List.filter_cons_of_pos (by simpa using hs),
        List.flatMap_cons, List.flatMap_cons, List.length_append, List.length_append]
      omega
    · rw [List.filter_cons_of_pos (by simpa using hs), List.filter_cons_of_neg (by simpa using hs),
        List.flatMap_cons, List.flatMap_cons, List.length_append, List.length_append]
      omega

theorem withoutComments_eq_iff (type : ResourceType) (t : Text) :
    t.withoutComments type = t ↔ ∀ s ∈ t.segments type, s.kind ≠ .comment := by
  have ht := segmentation_segments type t
  constructor
  · intro h s hs hcomment
    have hlength := length_flatMap_left (t.segments type)
    rw [ht.flatMap_text, ← Text.withoutComments, h] at hlength
    have hnil : ((t.segments type).filter (·.kind = .comment)).flatMap (·.text) = [] :=
      List.eq_nil_of_length_eq_zero (by omega)
    have hempty := List.flatMap_eq_nil_iff.mp hnil s
      (List.mem_filter.mpr ⟨hs, by simpa using hcomment⟩)
    obtain ⟨rest, hleads⟩ := ht.exists_leads hs
    exact hleads.shape.ne_nil hempty
  · intro h
    have hfilter : (t.segments type).filter (·.kind ≠ .comment) = t.segments type :=
      List.filter_eq_self.mpr fun s hs => by simpa using h s hs
    rw [Text.withoutComments, hfilter, ht.flatMap_text]

/-! ### What may open anew -/

/-- The code points that may open something when the comments behind them are gone. A slash is not
among those in scripts: before a comment it opens a line comment there. -/
def mayReopen : ResourceType → Code → Prop
  | .css, c => c = '\'' ∨ c = '"' ∨ c = 'u' ∨ c = solidus
  | .js, c => c = '\'' ∨ c = '"' ∨ c = Code.ofNat 0x60

theorem not_infix_of_commentEnd?_eq_none {t : Text} (h : commentEnd? t = none) :
    ¬ [star, solidus] <:+: t := by
  fun_induction commentEnd? t with
  | case1 => cases h
  | case2 c d r hcd ih =>
    rw [Option.map_eq_none_iff] at h
    rw [List.infix_cons_iff, not_or]
    refine ⟨?_, ih h⟩
    rintro ⟨r', hr'⟩
    obtain ⟨rfl, htail⟩ := List.cons.inj hr'
    obtain ⟨rfl, -⟩ := List.cons.inj htail
    exact hcd ⟨rfl, rfl⟩
  | case3 t ht =>
    rintro ⟨before, after, rfl⟩
    rcases before with - | ⟨c, - | ⟨d, before⟩⟩
    · exact ht _ _ _ rfl
    · exact ht _ _ _ rfl
    · exact ht _ _ _ rfl

theorem starts_comment_of_closer {t : Text} (h : [star, solidus] <:+: t) :
    Starts type .comment (solidus :: star :: t) := by
  cases hend : commentEnd? t with
  | none => exact absurd h (not_infix_of_commentEnd?_eq_none hend)
  | some s =>
    obtain ⟨hends, rfl⟩ := endsComment_of_commentEnd? hend
    exact ⟨_, s.2, .comment hends, rfl⟩

theorem EndsComment.infix {t : Text} (h : EndsComment t) : [star, solidus] <:+: t := by
  obtain ⟨body, rfl, -⟩ := h
  exact (List.suffix_append _ _).isInfix

theorem Segmentation.left_eq {t : Text} {ss : List Segment} (h : Segmentation type t ss)
    (ht : ¬ [star, solidus] <:+: t) : left ss = ss := by
  refine List.filter_eq_self.mpr fun s hs => ?_
  rw [decide_eq_true_eq]
  intro hcomment
  obtain ⟨body, hends, htext⟩ := h.endsComment hs hcomment
  obtain ⟨before, after, rfl⟩ := List.append_of_mem hs
  apply ht
  rw [← h.flatMap_text, List.flatMap_append, List.flatMap_cons, htext]
  refine hends.infix.trans ⟨before.flatMap (·.text) ++ "/*", after.flatMap (·.text), ?_⟩
  simp only [List.append_assoc]

theorem starts_lineComment (t : Text) : Starts .js .lineComment (solidus :: solidus :: t) := by
  obtain ⟨hline, hrest, ht⟩ := lineEnd_spec t
  exact ⟨_, _, .lineComment hline hrest, congrArg (solidus :: solidus :: ·) ht⟩

/-- What starts with a slash goes on with another one, or with a star and the end of a comment
somewhere behind it. -/
theorem Starts.of_solidus {t : Text} (h : Starts type k (solidus :: t)) (hk : k ≠ .plain) :
    (∃ r, t = solidus :: r) ∨ ∃ r, t = star :: r ∧ [star, solidus] <:+: r := by
  obtain ⟨text, rest, hshape, he⟩ := h
  cases hshape with
  | literal hquote h =>
    obtain ⟨rfl, -⟩ := List.cons.inj he
    exact absurd hquote (by decide)
  | url => cases he
  | template => cases he
  | lineComment => exact .inl ⟨_, (List.cons.inj he).2⟩
  | @licence _ body _ h =>
    refine .inr ⟨_, (List.cons.inj he).2, h.infix.trans ⟨"!", rest, ?_⟩⟩
    rfl
  | @comment _ body _ h =>
    exact .inr ⟨_, (List.cons.inj he).2, h.infix.trans (List.prefix_append body rest).isInfix⟩
  | plain => exact absurd rfl hk

/-- A slash that opens nothing in a script opens nothing when the comments behind it are gone. -/
theorem not_starts_left {rest : Text} {ss : List Segment}
    (h : Leads .js ⟨.plain, [solidus]⟩ rest) (hss : Segmentation .js rest ss) (hk : k ≠ .plain) :
    ¬ Starts .js k (solidus :: (left ss).flatMap (·.text)) := by
  have hline : ∀ r, rest ≠ solidus :: r := by
    rintro r rfl
    exact h.first .lineComment (by decide) (starts_lineComment r)
  have hcomment : ∀ r, rest = star :: r → ¬ [star, solidus] <:+: r := by
    rintro r rfl hinfix
    exact h.first .comment (by decide) (starts_comment_of_closer hinfix)
  -- The code point behind the slash stays, since a comment there would start with a slash itself.
  have hleft : ∀ d r, (left ss).flatMap (·.text) = d :: r →
      ∃ r', rest = d :: r' ∧ (¬ [star, solidus] <:+: r' → r = r') := by
    intro d r hr
    cases hss with
    | nil => cases hr
    | @cons s rest ss hs hss =>
      have hs' : s.kind ≠ .comment := by
        intro hkind
        obtain ⟨body, -, htext⟩ := (Segmentation.cons hs hss).endsComment List.mem_cons_self hkind
        exact hline (star :: (body ++ rest)) (by rw [htext]; rfl)
      rw [left, List.filter_cons_of_pos (by simpa using hs'), List.flatMap_cons] at hr
      obtain ⟨c, text, htext⟩ := List.exists_cons_of_ne_nil hs.shape.ne_nil
      rw [htext, List.cons_append] at hr ⊢
      obtain ⟨rfl, rfl⟩ := List.cons.inj hr
      refine ⟨_, rfl, fun hinfix => ?_⟩
      rw [← left, hss.left_eq fun h => hinfix (h.trans (List.suffix_append text rest).isInfix),
        hss.flatMap_text]
  intro hstarts
  obtain ⟨r, hr⟩ | ⟨r, hr, hinfix⟩ := hstarts.of_solidus hk
  · obtain ⟨r', hr', -⟩ := hleft _ _ hr
    exact hline r' hr'
  · obtain ⟨r', hr', he⟩ := hleft _ _ hr
    have hnone := hcomment r' hr'
    exact hnone (he hnone ▸ hinfix)

theorem Reopens.exists_mayReopen {t : Text} {ss : List Segment} (h : Reopens type ss)
    (hss : Segmentation type t ss) : ∃ c, ⟨.plain, [c]⟩ ∈ ss ∧ mayReopen type c := by
  obtain ⟨before, c, after, k, rfl, hk, hstarts⟩ := h
  refine ⟨c, by simp, ?_⟩
  by_cases hc : c = solidus
  · subst hc
    cases type with
    | css => exact .inr (.inr (.inr rfl))
    | js =>
      obtain ⟨hleads, hafter⟩ := hss.of_append_cons
      exact absurd hstarts (not_starts_left hleads hafter hk)
  · obtain ⟨text, rest, hshape, he⟩ := hstarts
    cases hshape with
    | literal hquote h =>
      obtain ⟨rfl, -⟩ := List.cons.inj he
      cases type with
      | css => exact hquote.imp_right .inl
      | js => exact hquote.imp_right .inl
    | url => exact .inr (.inr (.inl (List.cons.inj he).1))
    | template => exact .inr (.inr (List.cons.inj he).1)
    | lineComment => exact absurd (List.cons.inj he).1 hc
    | licence => exact absurd (List.cons.inj he).1 hc
    | comment => exact absurd (List.cons.inj he).1 hc
    | plain => exact absurd rfl hk

end Segment

theorem process_eq_withoutComments {σ : Type} (uri : Text) (type : ResourceType) (t : Text)
    (m : σ) :
    Builtin.stripComments.stage.process ⟨uri, type, true⟩ t m =
      ⟨.ok (.text (t.withoutComments type)), m, []⟩ := by
  cases type <;> rfl

/-- Stripping the comments twice. The second time changes the text if and only if there is a comment
in what the first time left. Exactly the segments that stayed are found again unless a code point
that stood for itself opens something with the comments behind it gone, and only a quote or a few
others can do so: where all of these belong to literals and the like, nothing changes. -/
theorem process_stripComments_again {σ : Type} (uri : Text) (type : ResourceType) (t : Text)
    (m : σ) :
    ∃ once again : Text,
      Builtin.stripComments.stage.process ⟨uri, type, true⟩ t m = ⟨.ok (.text once), m, []⟩ ∧
      Builtin.stripComments.stage.process ⟨uri, type, true⟩ once m = ⟨.ok (.text again), m, []⟩ ∧
      (again = once ↔ ∀ s ∈ once.segments type, s.kind ≠ .comment) ∧
      (once.segments type = (t.segments type).filter (·.kind ≠ .comment) ↔
        ¬ Segment.Reopens type (t.segments type)) ∧
      (again ≠ once → Segment.Reopens type (t.segments type) ∧
        ∃ c, ⟨.plain, [c]⟩ ∈ t.segments type ∧ Segment.mayReopen type c) := by
  have hcomments := Segment.withoutComments_eq_iff type (t.withoutComments type)
  have hsegments := Segment.segments_withoutComments_iff type t
  refine ⟨t.withoutComments type, (t.withoutComments type).withoutComments type,
    process_eq_withoutComments uri type t m, process_eq_withoutComments uri type _ m,
    hcomments, hsegments, fun hne => ?_⟩
  have hreopens : Segment.Reopens type (t.segments type) := by
    by_contra hreopens
    apply hne
    rw [hcomments, hsegments.mpr hreopens]
    intro s hs
    simpa using (List.mem_filter.mp hs).2
  exact ⟨hreopens, hreopens.exists_mayReopen (Segment.segmentation_segments type t)⟩

/-- In a stylesheet a comment may be all that stands between a slash and a star, and in a script a
line feed in a comment may be all that ends the search for a closing quote. -/
theorem not_stripped_again :
    Builtin.stripComments.stage.process ⟨"a.css", .css, true⟩ "//**/**/" () =
        ⟨.ok (.text "/**/"), (), []⟩ ∧
      Builtin.stripComments.stage.process ⟨"a.css", .css, true⟩ "/**/" () =
        ⟨.ok (.text ""), (), []⟩ ∧
      Builtin.stripComments.stage.process ⟨"a.js", .js, true⟩ "\"/*\n*/\"/**/\"" () =
        ⟨.ok (.text "\"\"/**/\""), (), []⟩ ∧
      Builtin.stripComments.stage.process ⟨"a.js", .js, true⟩ "\"\"/**/\"" () =
        ⟨.ok (.text "\"\"\""), (), []⟩ := by
  have hslash : ("//**/**/" : Text).withoutComments .css = "/**/" := by decide +kernel
  have hcomment : ("/**/" : Text).withoutComments .css = "" := by decide +kernel
  have hquote : ("\"/*\n*/\"/**/\"" : Text).withoutComments .js = "\"\"/**/\"" := by
    decide +kernel
  have hliteral : ("\"\"/**/\"" : Text).withoutComments .js = "\"\"\"" := by decide +kernel
  simp only [process_eq_withoutComments, hslash, hcomment, hquote, hliteral, and_self]

end WebLint
