import Mathlib.Data.List.TakeWhile
import WebLint.Stage.Comments

namespace WebLint.Segment

/-- What may stand between quotes: a backslash takes any code point along, and other code points
must be admitted. -/
inductive Inside (quote : Code) (admitted : Code → Bool) : Text → Prop
  | nil : Inside quote admitted []
  | escaped {t : Text} (c : Code) (h : Inside quote admitted t) :
    Inside quote admitted ('\\' :: c :: t)
  | plain {c : Code} {t : Text} (hquote : c ≠ quote) (hescape : c ≠ '\\') (hc : admitted c = true)
    (h : Inside quote admitted t) : Inside quote admitted (c :: t)

/-- The code points that end a comment, and the one that ends an address. -/
abbrev star : Code := '*'

abbrev solidus : Code := '/'

abbrev closer : Code := ')'

/-- A text that ends with the first end of a comment that is in it. -/
def EndsComment (t : Text) : Prop :=
  ∃ body : Text, t = body ++ [star, solidus] ∧ ¬ [star, solidus] <:+: body ++ [star]

/-- The segments of each kind, with what may follow them. -/
inductive Shape : ResourceType → SegmentKind → Text → Text → Prop
  | literal {type : ResourceType} {quote : Code} {body rest : Text}
    (hquote : quote = '\'' ∨ quote = '"') (h : Inside quote (· ≠ lineFeed) body) :
    Shape type .literal (quote :: (body ++ [quote])) rest
  | url {blanks body rest : Text} {c : Code} (hblanks : ∀ b ∈ blanks, b.isBlank = true)
    (hblank : c.isBlank = false) (hc : c ≠ '"' ∧ c ≠ '\'' ∧ c ≠ closer) (hbody : closer ∉ body) :
    Shape .css .url ("url(" ++ (blanks ++ c :: (body ++ [closer]))) rest
  | template {body rest : Text} (h : Inside (Code.ofNat 0x60) (fun _ => true) body) :
    Shape .js .template (Code.ofNat 0x60 :: (body ++ [Code.ofNat 0x60])) rest
  | lineComment {line rest : Text} (hline : lineFeed ∉ line)
    (hrest : rest = [] ∨ rest.head? = some lineFeed) : Shape .js .lineComment ("//" ++ line) rest
  | licence {type : ResourceType} {body rest : Text} (h : EndsComment body) :
    Shape type .licence ("/*!" ++ body) rest
  | comment {type : ResourceType} {body rest : Text} (h : EndsComment body) :
    Shape type .comment ("/*" ++ body) rest
  | plain {type : ResourceType} {c : Code} {rest : Text} : Shape type .plain [c] rest

theorem Shape.ne_nil {type : ResourceType} {k : SegmentKind} {text rest : Text}
    (h : Shape type k text rest) : text ≠ [] := by
  cases h <;> exact List.cons_ne_nil _ _

/-! ### Quotes -/

theorem quotedEnd?_quote (quote : Code) (admitted : Code → Bool) (r : Text) :
    quotedEnd? quote admitted (quote :: r) = some ([quote], r) := by
  unfold quotedEnd?
  rw [if_pos rfl]

theorem quotedEnd?_plain {quote c : Code} {admitted : Code → Bool} (hquote : c ≠ quote)
    (hescape : c ≠ '\\') (hc : admitted c = true) (r : Text) :
    quotedEnd? quote admitted (c :: r) = (quotedEnd? quote admitted r).map (after c) := by
  rw [quotedEnd?.eq_def]
  simp only [hquote, hescape, hc, if_false, if_true]

theorem quotedEnd?_of_inside {quote : Code} {admitted : Code → Bool} (hq : quote ≠ '\\')
    {body : Text} (h : Inside quote admitted body) (rest : Text) :
    quotedEnd? quote admitted (body ++ [quote] ++ rest) = some (body ++ [quote], rest) := by
  induction h with
  | nil => exact quotedEnd?_quote quote admitted rest
  | escaped c h ih =>
    simp only [List.cons_append, quotedEnd?, hq.symm, if_false, if_true, ih]
    rfl
  | plain hquote hescape hc h ih =>
    rw [List.cons_append, List.cons_append, quotedEnd?_plain hquote hescape hc, ih]
    rfl

theorem inside_of_quotedEnd? {quote : Code} {admitted : Code → Bool} {t text rest : Text}
    (h : quotedEnd? quote admitted t = some (text, rest)) :
    ∃ body, Inside quote admitted body ∧ text = body ++ [quote] ∧ t = text ++ rest := by
  fun_induction quotedEnd? quote admitted t generalizing text with
  | case1 => cases h
  | case2 r =>
    cases h
    exact ⟨[], .nil, rfl, rfl⟩
  | case3 => cases h
  | case4 c r _ ih =>
    obtain ⟨s, hs, he⟩ := Option.map_eq_some_iff.mp h
    cases he
    obtain ⟨body, hbody, htext, ht⟩ := ih hs
    exact ⟨_, .escaped c hbody, congrArg (('\\' : Code) :: c :: ·) htext,
      congrArg (('\\' : Code) :: c :: ·) ht⟩
  | case5 c r hc hescape hadmitted ih =>
    obtain ⟨s, hs, he⟩ := Option.map_eq_some_iff.mp h
    cases he
    obtain ⟨body, hbody, htext, ht⟩ := ih hs
    exact ⟨_, .plain hc hescape hadmitted hbody, congrArg (c :: ·) htext, congrArg (c :: ·) ht⟩
  | case6 => cases h

/-! ### Addresses -/

theorem closed?_of_not_mem {last : Code} {body : Text} (h : last ∉ body) (rest : Text) :
    closed? last (body ++ [last] ++ rest) = some (body ++ [last], rest) := by
  induction body with
  | nil => simp [closed?]
  | cons c body ih =>
    rw [List.mem_cons, not_or] at h
    rw [List.cons_append, List.cons_append, closed?, if_neg (Ne.symm h.1), ih h.2]
    rfl

theorem not_mem_of_closed? {last : Code} {t text rest : Text}
    (h : closed? last t = some (text, rest)) :
    ∃ body, last ∉ body ∧ text = body ++ [last] ∧ t = text ++ rest := by
  fun_induction closed? last t generalizing text with
  | case1 => cases h
  | case2 r =>
    cases h
    exact ⟨[], by simp, rfl, rfl⟩
  | case3 c r hc ih =>
    obtain ⟨s, hs, he⟩ := Option.map_eq_some_iff.mp h
    cases he
    obtain ⟨body, hbody, htext, ht⟩ := ih hs
    exact ⟨c :: body, by simp [hbody, Ne.symm hc], congrArg (c :: ·) htext, congrArg (c :: ·) ht⟩

theorem urlEnd?_of_blanks {blanks body : Text} {c : Code} (hblanks : ∀ b ∈ blanks, b.isBlank = true)
    (hblank : c.isBlank = false) (hc : c ≠ '"' ∧ c ≠ '\'' ∧ c ≠ closer) (hbody : closer ∉ body)
    (rest : Text) :
    urlEnd? (blanks ++ c :: (body ++ [closer]) ++ rest) =
      some (blanks ++ c :: (body ++ [closer]), rest) := by
  have htake : (blanks ++ c :: (body ++ [closer] ++ rest)).takeWhile Code.isBlank = blanks := by
    rw [List.takeWhile_append_of_pos hblanks, List.takeWhile_cons_of_neg (by simp [hblank]),
      List.append_nil]
  have hdrop : (blanks ++ c :: (body ++ [closer] ++ rest)).dropWhile Code.isBlank =
      c :: (body ++ [closer] ++ rest) := by
    rw [List.dropWhile_append_of_pos hblanks, List.dropWhile_cons_of_neg (by simp [hblank])]
  rw [List.append_assoc, List.cons_append]
  simp only [urlEnd?, htake, hdrop, hc, or_self, if_false, closed?_of_not_mem hbody,
    Option.map_some]

theorem blanks_of_urlEnd? {t text rest : Text} (h : urlEnd? t = some (text, rest)) :
    ∃ (blanks body : Text) (c : Code), (∀ b ∈ blanks, b.isBlank = true) ∧ c.isBlank = false ∧
      (c ≠ '"' ∧ c ≠ '\'' ∧ c ≠ closer) ∧ closer ∉ body ∧
      text = blanks ++ c :: (body ++ [closer]) ∧ t = text ++ rest := by
  have ht := List.takeWhile_append_dropWhile (p := Code.isBlank) (l := t)
  simp only [urlEnd?] at h
  split at h
  · cases h
  · next c r hdrop =>
    split at h
    · cases h
    · next hc =>
      obtain ⟨s, hs, he⟩ := Option.map_eq_some_iff.mp h
      cases he
      obtain ⟨body, hbody, htext, hr⟩ := not_mem_of_closed? hs
      have hblank : c.isBlank = false := by
        simpa [hdrop] using List.head?_dropWhile_not Code.isBlank t
      refine ⟨t.takeWhile Code.isBlank, body, c, fun b hb => List.mem_takeWhile_imp hb, hblank,
        by simpa only [not_or] using hc, hbody, by rw [htext], ?_⟩
      calc t = t.takeWhile Code.isBlank ++ t.dropWhile Code.isBlank := ht.symm
        _ = t.takeWhile Code.isBlank ++ c :: s.1 ++ s.2 := by
          rw [hdrop, hr, List.append_assoc, List.cons_append]

/-! ### Lines and comments -/

theorem lineEnd_of_not_mem {line rest : Text} (hline : lineFeed ∉ line)
    (hrest : rest = [] ∨ rest.head? = some lineFeed) : lineEnd (line ++ rest) = (line, rest) := by
  have hpos : ∀ c ∈ line, decide (c ≠ lineFeed) = true := by
    intro c hc
    simp only [ne_eq, decide_not, Bool.not_eq_true', decide_eq_false_iff_not]
    rintro rfl
    exact hline hc
  rw [lineEnd, List.takeWhile_append_of_pos hpos, List.dropWhile_append_of_pos hpos]
  cases rest with
  | nil => simp
  | cons c rest =>
    obtain rfl : c = lineFeed := by simpa using hrest
    simp

theorem lineEnd_spec (t : Text) :
    lineFeed ∉ (lineEnd t).1 ∧ ((lineEnd t).2 = [] ∨ (lineEnd t).2.head? = some lineFeed) ∧
      t = (lineEnd t).1 ++ (lineEnd t).2 := by
  refine ⟨?_, ?_, List.takeWhile_append_dropWhile.symm⟩
  · intro h
    simpa using List.mem_takeWhile_imp h
  · cases hdrop : t.dropWhile (· ≠ lineFeed) with
    | nil => exact .inl hdrop
    | cons c r =>
      have hc := List.head?_dropWhile_not (· ≠ lineFeed) t
      rw [hdrop] at hc
      have hc : c = lineFeed := by simpa using hc
      exact .inr (by simp only [lineEnd, hdrop, hc, List.head?_cons])

theorem infix_cons_iff_of_head {c : Code} {body : Text} {d : Code} {r rest : Text}
    (h : body ++ [star, solidus] ++ rest = d :: r) :
    [star, solidus] <:+: c :: (body ++ [star]) ↔
      (c = star ∧ d = solidus) ∨ [star, solidus] <:+: body ++ [star] := by
  rw [List.infix_cons_iff]
  refine or_congr_left ?_
  cases body with
  | nil =>
    obtain rfl : star = d := (List.cons.inj h).1
    have hne : star ≠ solidus := by decide
    simp [hne, hne.symm]
  | cons x body =>
    obtain rfl : x = d := (List.cons.inj h).1
    simp [List.cons_prefix_cons, eq_comm]

theorem commentEnd?_of_endsComment {t : Text} (h : EndsComment t) (rest : Text) :
    commentEnd? (t ++ rest) = some (t, rest) := by
  obtain ⟨body, rfl, hbody⟩ := h
  induction body with
  | nil => rfl
  | cons c body ih =>
    obtain ⟨d, r, hr⟩ : ∃ d r, body ++ [star, solidus] ++ rest = d :: r := by
      cases body <;> exact ⟨_, _, rfl⟩
    rw [List.cons_append, infix_cons_iff_of_head hr, not_or] at hbody
    have htail := ih hbody.2
    rw [List.cons_append, List.cons_append]
    rw [hr] at htail ⊢
    rw [commentEnd?, if_neg hbody.1, htail]
    rfl

theorem endsComment_of_commentEnd? {t text rest : Text} (h : commentEnd? t = some (text, rest)) :
    EndsComment text ∧ t = text ++ rest := by
  fun_induction commentEnd? t generalizing text with
  | case1 c d r hcd =>
    cases h
    obtain ⟨rfl, rfl⟩ := hcd
    exact ⟨⟨[], rfl, by decide⟩, rfl⟩
  | case2 c d r hcd ih =>
    obtain ⟨s, hs, he⟩ := Option.map_eq_some_iff.mp h
    cases he
    obtain ⟨⟨body, htext, hbody⟩, ht⟩ := ih hs
    refine ⟨⟨c :: body, congrArg (c :: ·) htext, ?_⟩, congrArg (c :: ·) ht⟩
    rw [htext] at ht
    rw [List.cons_append, infix_cons_iff_of_head ht.symm, not_or]
    exact ⟨hcd, hbody⟩
  | case3 => cases h

end WebLint.Segment
