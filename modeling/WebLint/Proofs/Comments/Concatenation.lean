import WebLint.Proofs.Comments.ScriptEnd

namespace WebLint

namespace Segment

variable {type : ResourceType} {k : SegmentKind} {t b rest : Text} {c : Code}
  {ss ss' : List Segment}

/-! ### Openers -/

def IsRefused (t : Text) : Prop :=
  ∃ c ∈ (t.dropWhile Code.isBlank).head?, c = '"' ∨ c = '\'' ∨ c = closer

instance (t : Text) : Decidable (IsRefused t) :=
  inferInstanceAs (Decidable (∃ _, _ ∧ _))

def HasOpener (type : ResourceType) (t : Text) : Prop :=
  (∃ c ∈ t.head?, c = '\'' ∨ c = '"' ∨ type = .js ∧ c = Code.ofNat 0x60) ∨
    Text.ofString "/*" <+: t ∨ type = .css ∧ ∃ r ∈ t.dropPrefix? "url(", ¬ IsRefused r

instance (type : ResourceType) (t : Text) : Decidable (HasOpener type t) :=
  inferInstanceAs (Decidable (_ ∨ _ ∨ _))

theorem IsRefused.append_ne {blanks body : Text} (h : IsRefused t)
    (hblanks : ∀ b ∈ blanks, b.isBlank = true) (hblank : c.isBlank = false)
    (hc : c ≠ '"' ∧ c ≠ '\'' ∧ c ≠ closer) : t ++ b ≠ blanks ++ c :: body := by
  intro he
  obtain ⟨d, hd, hrefused⟩ := h
  have hfirst : ((t ++ b).dropWhile Code.isBlank).head? = some d := by
    rw [List.dropWhile_append]
    cases hdrop : t.dropWhile Code.isBlank with
    | nil => simp [hdrop] at hd
    | cons x r => simpa [hdrop] using hd
  rw [he, List.dropWhile_append_of_pos hblanks, List.dropWhile_cons_of_neg (by simp [hblank]),
    List.head?_cons] at hfirst
  cases hfirst
  rcases hrefused with h | h | h
  · exact hc.1 h
  · exact hc.2.1 h
  · exact hc.2.2 h

theorem exists_append_of_lineFeed {word r : Text} (hword : lineFeed ∉ word)
    (ht : t.getLast? = some lineFeed) (he : t ++ b = word ++ r) :
    ∃ r', t = word ++ r' ∧ r' ++ b = r := by
  rcases List.append_eq_append_iff.mp he with ⟨w, rfl, -⟩ | ⟨w, rfl, rfl⟩
  · exact absurd (List.mem_append_left w (List.mem_of_getLast? ht)) hword
  · exact ⟨w, rfl, rfl⟩

/-- What starts in a text that ends a line, with more behind it, has its opener there or starts
there without it as well. -/
theorem Starts.hasOpener_or (h : Starts type k (t ++ b)) (hk : k ≠ .plain)
    (ht : t.getLast? = some lineFeed) : HasOpener type t ∨ Starts type k t := by
  obtain ⟨text, rest, hshape, he⟩ := h
  obtain ⟨c, t, rfl⟩ := List.exists_cons_of_ne_nil (List.ne_nil_of_mem (List.mem_of_getLast? ht))
  cases hshape with
  | literal hquote _ =>
    obtain ⟨rfl, -⟩ := List.cons.inj he
    exact .inl (.inl ⟨_, rfl, hquote.imp_right .inl⟩)
  | @url blanks body _ d hblanks hblank hd hbody =>
    rw [List.append_assoc, List.append_assoc] at he
    obtain ⟨r, hr, hrest⟩ := exists_append_of_lineFeed (by decide) ht he
    refine .inl (.inr (.inr ⟨rfl, r, Text.dropPrefix?_eq_some_iff.mpr hr, fun hrefused => ?_⟩))
    exact hrefused.append_ne hblanks hblank hd hrest
  | template _ =>
    obtain ⟨rfl, -⟩ := List.cons.inj he
    exact .inl (.inl ⟨_, rfl, .inr (.inr ⟨rfl, rfl⟩)⟩)
  | lineComment _ _ =>
    rw [List.append_assoc] at he
    obtain ⟨r, hr, -⟩ := exists_append_of_lineFeed (by decide) ht he
    exact .inr (hr ▸ starts_lineComment r)
  | @licence _ body _ _ =>
    have he' : c :: t ++ b = ("/*" : Text) ++ ("!" ++ body ++ rest) := he
    obtain ⟨r, hr, -⟩ := exists_append_of_lineFeed (by decide) ht he'
    exact .inl (.inr (.inl ⟨r, hr.symm⟩))
  | comment _ =>
    rw [List.append_assoc] at he
    obtain ⟨r, hr, -⟩ := exists_append_of_lineFeed (by decide) ht he
    exact .inl (.inr (.inl ⟨r, hr.symm⟩))
  | plain => exact absurd rfl hk

/-! ### Segments with more behind them -/

theorem EndsComment.three_le (h : EndsComment t) : 3 ≤ ("/*" ++ t : Text).length := by
  obtain ⟨body, rfl, -⟩ := h
  have hopener : (Text.ofString "/*").length = 2 := rfl
  simp only [List.length_append, List.length_cons, hopener]
  omega

theorem Leads.of_rest_of_comment {s : Segment} (h : Leads type s rest) (hkind : s.kind = .comment)
    (rest' : Text) : Leads type s rest' := by
  refine ⟨h.shape.of_rest (by simp [hkind]), fun k hrank hstarts => ?_⟩
  have hlicence := h.not_licence_of_comment hkind
  have hfamily := h.shape.openedFamily_append (by simp [hkind]) rest'
  obtain ⟨k', text⟩ := s
  obtain ⟨text', rest'', hshape', he⟩ := hstarts
  dsimp only at hkind he hfamily hlicence hrank
  subst hkind
  rw [he, hshape'.openedFamily_append (ne_plain_of_rank_lt hrank)] at hfamily
  obtain rfl : k = .licence := by
    cases k <;> simp_all [SegmentKind.family, SegmentKind.rank]
  cases h.shape with
  | comment hends =>
    cases hshape' with
    | @licence _ body _ _ =>
      apply hlicence
      refine List.prefix_of_prefix_length_le (show _ <+: _ ++ rest' from ?_)
        (List.prefix_append _ _) hends.three_le
      exact ⟨body ++ rest'', by rw [he, List.append_assoc]⟩

/-- All that is opened is closed: no code point that stands for itself has an opener, and the last
one is a line feed. -/
structure Closes (type : ResourceType) (ss : List Segment) : Prop where
  ends : ∀ s, ss.getLast? = some s → s = ⟨.plain, [lineFeed]⟩
  opens : ∀ before c after, ss = before ++ ⟨.plain, [c]⟩ :: after →
    ¬ HasOpener type (c :: after.flatMap (·.text))

theorem Closes.tail {s : Segment} (h : Closes type (s :: ss)) : Closes type ss := by
  refine ⟨fun s' hs' => h.ends s' ?_, fun before c after hss => h.opens (s :: before) c after ?_⟩
  · rw [List.getLast?_cons, hs']
    rfl
  · rw [hss, List.cons_append]

theorem Closes.getLast?_flatMap (h : Closes type ss) (hss : ss ≠ []) :
    (ss.flatMap (·.text)).getLast? = some lineFeed := by
  rcases List.eq_nil_or_concat ss with rfl | ⟨ss, s, rfl⟩
  · exact absurd rfl hss
  · rw [List.concat_eq_append] at h ⊢
    rw [h.ends s List.getLast?_concat, List.flatMap_append, List.flatMap_singleton,
      List.getLast?_concat]

theorem Leads.of_closes {s : Segment} (h : Leads type s rest) (hss : Segmentation type rest ss)
    (hcloses : Closes type (s :: ss)) (b : Text) : Leads type s (rest ++ b) := by
  by_cases hcomment : s.kind = .comment
  · exact h.of_rest_of_comment hcomment _
  by_cases hplain : s.kind = .plain
  · obtain ⟨k, text⟩ := s
    cases hplain
    cases h.shape with
    | @plain _ c _ =>
      have hlast := hcloses.getLast?_flatMap (List.cons_ne_nil _ _)
      have hopens := hcloses.opens [] c ss rfl
      rw [List.flatMap_cons, hss.flatMap_text] at hlast
      rw [hss.flatMap_text] at hopens
      refine ⟨.plain, fun k hrank hstarts => ?_⟩
      rw [← List.append_assoc] at hstarts
      rcases hstarts.hasOpener_or (ne_plain_of_rank_lt hrank) hlast with hopener | hstarts
      · exact hopens hopener
      · exact h.first k hrank hstarts
  · refine h.of_rest hplain hcomment fun hline => .inr ?_
    obtain ⟨k, text⟩ := s
    cases hline
    cases h.shape with
    | lineComment _ hrest =>
      cases rest with
      | nil =>
        rw [hss.eq_nil] at hcloses
        cases hcloses.ends _ rfl
      | cons d rest => simpa using hrest

theorem Segmentation.append (h : Segmentation type t ss) (hcloses : Closes type ss)
    (h' : Segmentation type b ss') : Segmentation type (t ++ b) (ss ++ ss') := by
  induction h with
  | nil => exact h'
  | cons hs hss ih =>
    rw [List.append_assoc, List.cons_append]
    exact .cons (hs.of_closes hss hcloses b) (ih hcloses.tail)

end Segment

namespace Text

open Segment

/-- All that the text opens is closed in it: no code point that stands for itself has an opener, and
the last one is a line feed. -/
def IsComplete (type : ResourceType) (t : Text) : Prop :=
  (∀ m ∈ (t.marks type).getLast?, m.kind = .plain ∧ m.code = lineFeed) ∧
    ∀ m ∈ t.marks type, m.kind = .plain → ¬ HasOpener type (t.drop m.place)

instance (type : ResourceType) (t : Text) : Decidable (t.IsComplete type) :=
  inferInstanceAs (Decidable (_ ∧ _))

theorem IsComplete.closes {type : ResourceType} {t : Text} (h : t.IsComplete type) :
    Closes type (t.segments type) := by
  have hsegmentation := segmentation_segments type t
  refine ⟨fun s hs => ?_, fun before c after hss hopener => ?_⟩
  · obtain ⟨ss, hss⟩ := List.getLast?_eq_some_iff.mp hs
    obtain ⟨rest, hleads⟩ := hsegmentation.exists_leads (List.mem_of_getLast? hs)
    have hlast := getLast?_marksFrom (List.getLast?_eq_some_getLast hleads.shape.ne_nil) 0 ss
    rw [← hss] at hlast
    obtain ⟨hplain, hcode⟩ := h.1 _ hlast
    obtain ⟨k, text⟩ := s
    cases hplain
    cases hleads.shape with
    | plain => exact congrArg (fun c => (⟨.plain, [c]⟩ : Segment)) hcode
  · have hmark : ⟨(before.flatMap (·.text)).length, .plain, c⟩ ∈ t.marks type := by
      rw [marks, hss, marksFrom_append, Nat.zero_add]
      exact List.mem_append_right _ List.mem_cons_self
    have ht := hsegmentation.flatMap_text
    rw [hss, List.flatMap_append, List.flatMap_cons] at ht
    apply h.2 _ hmark rfl
    rwa [← ht, List.drop_left]

theorem segments_append {type : ResourceType} {t : Text} (h : t.IsComplete type) (b : Text) :
    (t ++ b).segments type = t.segments type ++ b.segments type :=
  (segmentation_segments type (t ++ b)).unique
    ((segmentation_segments type t).append h.closes (segmentation_segments type b))

theorem withoutComments_append {type : ResourceType} {t : Text} (h : t.IsComplete type) (b : Text) :
    (t ++ b).withoutComments type = t.withoutComments type ++ b.withoutComments type := by
  rw [withoutComments, segments_append h, List.filter_append, List.flatMap_append, withoutComments,
    withoutComments]

end Text

theorem process_unminimized {σ : Type} (uri : Text) (type : ResourceType) (t : Text) (m : σ) :
    Builtin.stripComments.stage.process ⟨uri, type, false⟩ t m = ⟨.ok (.text t), m, []⟩ := by
  cases type <;> rfl

/-- Stripping the comments of a file that closes all that it opens, and of what is put behind it: it
makes no difference whether this is done one by one or with both together. -/
theorem process_stripComments_append {σ : Type} (uri uri' joined : Text) (type : ResourceType)
    (minimize : Bool) {t : Text} (ht : t.IsComplete type) (t' : Text) (m : σ) :
    ∃ out out' : Text,
      Builtin.stripComments.stage.process ⟨uri, type, minimize⟩ t m = ⟨.ok (.text out), m, []⟩ ∧
      Builtin.stripComments.stage.process ⟨uri', type, minimize⟩ t' m =
        ⟨.ok (.text out'), m, []⟩ ∧
      Builtin.stripComments.stage.process ⟨joined, type, minimize⟩ (t ++ t') m =
        ⟨.ok (.text (out ++ out')), m, []⟩ := by
  cases minimize with
  | false =>
    simp only [process_unminimized]
    exact ⟨t, t', rfl, rfl, rfl⟩
  | true =>
    simp only [process_eq_withoutComments]
    exact ⟨_, _, rfl, rfl, by rw [Text.withoutComments_append ht]⟩

theorem process_stripComments_append_styles :
    ("a:url( '/*')/*b*/\n" : Text).IsComplete .css ∧
    ∃ out out' : Text,
      Builtin.stripComments.stage.process ⟨"a.css", .css, true⟩ "a:url( '/*')/*b*/\n" () =
        ⟨.ok (.text out), (), []⟩ ∧
      Builtin.stripComments.stage.process ⟨"b.css", .css, true⟩ "*//*c*/')" () =
        ⟨.ok (.text out'), (), []⟩ ∧
      Builtin.stripComments.stage.process ⟨"all.css", .css, true⟩
        ("a:url( '/*')/*b*/\n" ++ "*//*c*/')" : Text) () = ⟨.ok (.text (out ++ out')), (), []⟩ := by
  have h : ("a:url( '/*')/*b*/\n" : Text).IsComplete .css := by decide +kernel
  exact ⟨h, process_stripComments_append "a.css" "b.css" "all.css" .css true h "*//*c*/')" ()⟩

end WebLint
