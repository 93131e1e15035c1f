import WebLint.Proofs.Comments.Rescan
import WebLint.Proofs.Comments.Words
import WebLint.Proofs.Text.Trim

namespace WebLint

namespace Segment

variable {k : SegmentKind} {t rest : Text} {c : Code} {ss : List Segment}

/-! ### A script with one more code point -/

def closers : List Code :=
  ['\'', '"', Code.ofNat 0x60, solidus]

theorem Shape.getLast?_mem_closers {text : Text} (h : Shape .js k text rest)
    (hplain : k ≠ .plain) (hline : k ≠ .lineComment) : ∃ c ∈ closers, text.getLast? = some c := by
  cases h with
  | @literal _ quote body _ hquote _ =>
    refine ⟨quote, ?_, by rw [← List.cons_append, List.getLast?_concat]⟩
    rcases hquote with rfl | rfl <;> simp [closers]
  | @template body _ _ =>
    refine ⟨Code.ofNat 0x60, by simp [closers], by rw [← List.cons_append, List.getLast?_concat]⟩
  | lineComment => exact absurd rfl hline
  | licence h =>
    obtain ⟨body, rfl, -⟩ := h
    exact ⟨solidus, by simp [closers], by simp⟩
  | comment h =>
    obtain ⟨body, rfl, -⟩ := h
    exact ⟨solidus, by simp [closers], by simp⟩
  | plain => exact absurd rfl hplain

/-- What starts in front of a code point that closes nothing starts without it as well. -/
theorem Starts.of_append (h : Starts .js k (t ++ [c])) (hc : c ∉ closers) (hk : k ≠ .plain) :
    Starts .js k t := by
  obtain ⟨text, rest, hshape, he⟩ := h
  by_cases hline : k = .lineComment
  · subst hline
    cases hshape with
    | @lineComment line =>
      have he : t ++ [c] = solidus :: solidus :: (line ++ rest) := he
      match t with
      | [] => cases he
      | [_] =>
        obtain rfl : c = solidus := (List.cons.inj (List.cons.inj he).2).1
        exact absurd (by simp [closers]) hc
      | _ :: _ :: t =>
        obtain ⟨rfl, htail⟩ := List.cons.inj he
        obtain ⟨rfl, -⟩ := List.cons.inj htail
        exact starts_lineComment t
  · rcases List.eq_nil_or_concat rest with rfl | ⟨rest, d, rfl⟩
    · obtain ⟨d, hd, hlast⟩ := hshape.getLast?_mem_closers hk hline
      rw [List.append_nil] at he
      rw [← he, List.getLast?_concat] at hlast
      cases hlast
      exact absurd hd hc
    · rw [List.concat_eq_append, ← List.append_assoc] at he
      obtain ⟨rfl, -⟩ := List.append_inj' he rfl
      exact ⟨text, rest, hshape.of_rest fun h => absurd h hline, rfl⟩

theorem Leads.append {s : Segment} (h : Leads .js s rest) (hc : c ∉ closers)
    (hline : s.kind = .lineComment → rest ≠ [] ∨ c = lineFeed) : Leads .js s (rest ++ [c]) := by
  refine ⟨h.shape.of_rest fun hkind => ?_, fun k hrank hstarts => ?_⟩
  · obtain ⟨_, text⟩ := s
    cases hkind
    cases h.shape with
    | lineComment _ hrest =>
      right
      cases rest with
      | nil => simpa using hline rfl
      | cons d rest => simpa using hrest
  · rw [← List.append_assoc] at hstarts
    exact h.first k hrank (hstarts.of_append hc (ne_plain_of_rank_lt hrank))

theorem Segmentation.append_plain (h : Segmentation .js t ss) (hc : c ∉ closers)
    (hline : c = lineFeed ∨ ∀ s, ss.getLast? = some s → s.kind ≠ .lineComment) :
    Segmentation .js (t ++ [c]) (ss ++ [⟨.plain, [c]⟩]) := by
  induction h with
  | nil =>
    have hleads : Leads .js ⟨.plain, [c]⟩ [] := by
      refine ⟨.plain, fun k hrank hstarts => ?_⟩
      obtain ⟨text, rest, hshape, he⟩ : Starts .js k [] :=
        Starts.of_append hstarts hc (ne_plain_of_rank_lt hrank)
      exact hshape.ne_nil (List.append_eq_nil_iff.mp he.symm).1
    exact .cons hleads .nil
  | @cons s rest ss hs hss ih =>
    rw [List.append_assoc, List.cons_append]
    refine .cons (hs.append hc fun hkind => ?_) (ih ?_)
    · rcases hline with hline | hline
      · exact .inr hline
      · refine .inl ?_
        rintro rfl
        rw [hss.eq_nil] at hline
        exact hline s rfl hkind
    · refine hline.imp_right fun hline s' hs' => hline s' ?_
      rw [List.getLast?_cons, hs']
      rfl

theorem Shape.append_line {text : Text} (h : Shape .js .lineComment text rest)
    (hlf : c ≠ lineFeed) :
    Shape .js .lineComment (text ++ [c]) [] := by
  cases h with
  | @lineComment line _ hline _ =>
    have hline' : lineFeed ∉ line ++ [c] := by
      rw [List.mem_append, List.mem_singleton, not_or]
      exact ⟨hline, hlf.symm⟩
    exact .lineComment hline' (.inl rfl)

theorem Segmentation.append_line {line : Text}
    (h : Segmentation .js t (ss ++ [⟨.lineComment, line⟩])) (hc : c ∉ closers)
    (hlf : c ≠ lineFeed) :
    Segmentation .js (t ++ [c]) (ss ++ [⟨.lineComment, line ++ [c]⟩]) := by
  induction ss generalizing t with
  | nil =>
    cases h with
    | cons hs hss =>
      cases hss
      have hshape := hs.shape.append_line hlf
      have hleads : Leads .js ⟨.lineComment, line ++ [c]⟩ [] :=
        ⟨hshape, fun _ hrank => hshape.not_starts (by decide) (by decide) hrank []⟩
      have h := Segmentation.cons hleads .nil
      rwa [List.append_nil] at h ⊢
  | cons s ss ih =>
    cases h with
    | @cons _ rest _ hs hss =>
      rw [List.append_assoc, List.cons_append]
      refine .cons (hs.append hc fun _ => .inl ?_) (ih hss)
      rintro rfl
      exact absurd hss.eq_nil (by simp)

/-! ### Places and kinds -/

theorem marksOf_append (kind : SegmentKind) (place : Nat) (t t' : Text) :
    marksOf kind place (t ++ t') = marksOf kind place t ++ marksOf kind (place + t.length) t' := by
  induction t generalizing place with
  | nil => rfl
  | cons c t ih =>
    rw [List.cons_append, marksOf, ih, marksOf, List.cons_append, List.length_cons,
      Nat.add_right_comm, Nat.add_assoc]

theorem marksFrom_append (place : Nat) (ss ss' : List Segment) :
    marksFrom place (ss ++ ss') =
      marksFrom place ss ++ marksFrom (place + (ss.flatMap (·.text)).length) ss' := by
  induction ss generalizing place with
  | nil => rfl
  | cons s ss ih =>
    rw [List.cons_append, marksFrom, ih, marksFrom, List.append_assoc, List.flatMap_cons,
      List.length_append, Nat.add_assoc]

theorem getLast?_marksFrom {s : Segment} {d : Code} (hs : s.text.getLast? = some d) (place : Nat)
    (ss : List Segment) :
    (marksFrom place (ss ++ [s])).getLast? =
      some ⟨place + (ss.flatMap (·.text)).length + (s.text.length - 1), s.kind, d⟩ := by
  obtain ⟨t, ht⟩ := List.getLast?_eq_some_iff.mp hs
  rw [marksFrom_append, marksFrom, marksFrom, List.append_nil, ht, marksOf_append,
    ← List.append_assoc]
  simp [marksOf]

theorem marksFrom_append_plain (ss : List Segment) (c : Code) :
    marksFrom 0 (ss ++ [⟨.plain, [c]⟩]) =
      marksFrom 0 ss ++ [⟨(ss.flatMap (·.text)).length, .plain, c⟩] := by
  rw [marksFrom_append, Nat.zero_add]
  rfl

theorem marksFrom_append_line (ss : List Segment) (k : SegmentKind) (line : Text) (c : Code) :
    marksFrom 0 (ss ++ [⟨k, line ++ [c]⟩]) =
      marksFrom 0 (ss ++ [⟨k, line⟩]) ++ [⟨(ss.flatMap (·.text)).length + line.length, k, c⟩] := by
  simp only [marksFrom_append, marksFrom, marksOf_append, marksOf, List.append_nil, Nat.zero_add,
    List.append_assoc]

/-- The kind of a code point that closes nothing, behind the last mark of a script. -/
def kindBehind (c : Code) : Option Mark → SegmentKind
  | some m => if m.kind = .lineComment ∧ c ≠ lineFeed then .lineComment else .plain
  | none => .plain

theorem kindBehind_eq_or (c : Code) (m : Option Mark) :
    kindBehind c m = .lineComment ∨ kindBehind c m = .plain := by
  unfold kindBehind
  split
  · split
    · exact .inl rfl
    · exact .inr rfl
  · exact .inr rfl

theorem Segmentation.exists_append (h : Segmentation .js t ss) (hc : c ∉ closers) :
    ∃ ss', Segmentation .js (t ++ [c]) ss' ∧
      marksFrom 0 ss' =
        marksFrom 0 ss ++ [⟨t.length, kindBehind c (marksFrom 0 ss).getLast?, c⟩] := by
  rcases List.eq_nil_or_concat ss with rfl | ⟨ss, s, rfl⟩
  · refine ⟨_, h.append_plain hc (.inr fun s hs => by cases hs), ?_⟩
    rw [marksFrom_append_plain, ← h.flatMap_text]
    rfl
  · rw [List.concat_eq_append] at h ⊢
    obtain ⟨rest, hleads⟩ := h.exists_leads (s := s) (by simp)
    have hlast := getLast?_marksFrom (List.getLast?_eq_some_getLast hleads.shape.ne_nil) 0 ss
    rw [hlast]
    by_cases hline : s.kind = .lineComment ∧ c ≠ lineFeed
    · obtain ⟨k, line⟩ := s
      obtain ⟨rfl, hlf⟩ := hline
      refine ⟨_, h.append_line hc hlf, ?_⟩
      rw [marksFrom_append_line, kindBehind, if_pos ⟨rfl, hlf⟩, ← h.flatMap_text,
        List.flatMap_append, List.length_append, List.flatMap_singleton]
    · refine ⟨_, h.append_plain hc ?_, ?_⟩
      · rw [not_and_or, not_not] at hline
        refine hline.symm.imp_right fun hkind s' hs' => ?_
        rw [List.getLast?_concat] at hs'
        cases hs'
        exact hkind
      · rw [marksFrom_append_plain, h.flatMap_text, kindBehind, if_neg hline]

end Segment

namespace Text

open Segment

variable {t : Text} {c : Code}

theorem marks_append (hc : c ∉ closers) (t : Text) :
    (t ++ [c]).marks .js =
      t.marks .js ++ [⟨t.length, kindBehind c (t.marks .js).getLast?, c⟩] := by
  obtain ⟨ss, hss, hmarks⟩ := (segmentation_segments .js t).exists_append hc
  rw [marks, (segmentation_segments .js (t ++ [c])).unique hss, hmarks, marks]

/-! ### The last code point that is no white space -/

def lastMark? (t : Text) : Option Mark :=
  ((t.marks .js).filter (!·.code.isBlank)).getLast?

theorem isBlank_of_mem_closers (hc : c ∈ closers) : c.isBlank = false := by
  revert c
  decide

theorem lastMark?_append_blanks (t : Text) {w : Text} (hw : ∀ c ∈ w, c.isBlank = true) :
    (t ++ w).lastMark? = t.lastMark? := by
  induction w using List.reverseRecOn with
  | nil => rw [List.append_nil]
  | append_singleton w c ih =>
    have hblank := hw c (by simp)
    have hc : c ∉ closers := fun h => by simp [isBlank_of_mem_closers h] at hblank
    rw [← List.append_assoc, lastMark?, marks_append hc, List.filter_append,
      List.filter_cons_of_neg (by simpa using hblank), List.filter_nil, List.append_nil,
      ← lastMark?]
    exact ih fun c hc => hw c (List.mem_append_left _ hc)

theorem lastMark?_append (hc : c ∉ closers) (hblank : c.isBlank = false) (t : Text) :
    (t ++ [c]).lastMark? = some ⟨t.length, kindBehind c (t.marks .js).getLast?, c⟩ := by
  rw [lastMark?, marks_append hc, List.filter_append,
    List.filter_cons_of_pos (by simpa using hblank), List.filter_nil, List.getLast?_concat]

theorem exists_lastMark? {d : Code} (ht : t.getLast? = some d) (hd : d.isBlank = false) :
    ∃ m, (t.marks .js).getLast? = some m ∧ t.lastMark? = some m := by
  have hcodes : (t.marks .js).map (·.code) = t := by
    rw [marks, map_code_marksFrom, (segmentation_segments .js t).flatMap_text]
  rw [← hcodes, List.getLast?_map, Option.map_eq_some_iff] at ht
  obtain ⟨m, hm, rfl⟩ := ht
  obtain ⟨ms, hms⟩ := List.getLast?_eq_some_iff.mp hm
  refine ⟨m, hm, ?_⟩
  rw [lastMark?, hms, List.filter_append, List.filter_cons_of_pos (by simpa using hd),
    List.filter_nil, List.getLast?_concat]

/-! ### A semicolon at the end -/

abbrev semicolon : Code :=
  endWithSemicolon.semicolon

theorem endWithSemicolon_of_blank (h : t.trimEnd = []) : t.endWithSemicolon = t := by
  simp [endWithSemicolon, h]

theorem endWithSemicolon_of_semicolon {body : Text} (h : t.trimEnd = body ++ [semicolon]) :
    t.endWithSemicolon = t := by
  simp [endWithSemicolon, h, endsWithCode]

theorem endWithSemicolon_of_ne {body : Text} (h : t.trimEnd = body ++ [c]) (hc : c ≠ semicolon) :
    t.endWithSemicolon = t.trimEnd ++ [semicolon] := by
  simp [endWithSemicolon, h, endsWithCode, hc]

/-- The last code point of a script, white space aside, is a semicolon that stands for itself. -/
def IsTerminated (t : Text) : Prop :=
  ∃ m, t.lastMark? = some m ∧ m.kind = .plain ∧ m.code = semicolon

/-- The semicolon at the end shares the fate of the last code point that is no white space: it is in
a line comment if that is. -/
theorem lastMark?_endWithSemicolon (t : Text) :
    t.lastMark? = none ∧ t.endWithSemicolon = t ∨
      ∃ m place, t.lastMark? = some m ∧ t.endWithSemicolon.lastMark? =
        some ⟨place, if m.kind = .lineComment then .lineComment else .plain, semicolon⟩ := by
  have hcloser : semicolon ∉ closers := by decide
  have hblank : semicolon.isBlank = false := by decide
  have hlf : semicolon ≠ lineFeed := by decide
  obtain ⟨w, ht, hw, hlast⟩ := t.exists_trimEnd
  have hsame : t.lastMark? = t.trimEnd.lastMark? := by
    rw [← lastMark?_append_blanks t.trimEnd hw, ← ht]
  rcases List.eq_nil_or_concat t.trimEnd with hnil | ⟨(body : Text), c, hbody⟩
  · refine .inl ⟨?_, endWithSemicolon_of_blank hnil⟩
    rw [hsame, hnil]
    rfl
  · rw [List.concat_eq_append] at hbody
    right
    by_cases hc : c = semicolon
    · subst hc
      have hmark : t.lastMark? =
          some ⟨body.length, kindBehind semicolon (body.marks .js).getLast?, semicolon⟩ := by
        rw [hsame, hbody, lastMark?_append hcloser hblank]
      refine ⟨_, body.length, hmark, ?_⟩
      rw [endWithSemicolon_of_semicolon hbody, hmark]
      obtain hkind | hkind := kindBehind_eq_or semicolon (body.marks .js).getLast? <;> simp [hkind]
    · have hgetLast : t.trimEnd.getLast? = some c := by rw [hbody, List.getLast?_concat]
      obtain ⟨m, hm, hmark⟩ := exists_lastMark? hgetLast (hlast c hgetLast)
      refine ⟨m, t.trimEnd.length, hsame.trans hmark, ?_⟩
      rw [endWithSemicolon_of_ne hbody hc, lastMark?_append hcloser hblank, hm]
      simp only [kindBehind, hlf, ne_eq, not_false_eq_true, and_true]

end Text

/-- What is made of a script that is not blank ends with a semicolon. It stands for itself if and
only if the script does not end in a line comment, white space aside. -/
theorem isTerminated_process_iff {σ : Type} (uri : Text) (minimize : Bool) (t : Text) (m : σ) :
    ∃ out : Text, Builtin.appendSemicolon.stage.process ⟨uri, .js, minimize⟩ t m =
        ⟨.ok (.text out), m, []⟩ ∧
      (∀ mark, t.lastMark? = some mark →
        ∃ place kind, out.lastMark? = some ⟨place, kind, Text.semicolon⟩) ∧
      (out.IsTerminated ↔ ∃ mark, t.lastMark? = some mark ∧ mark.kind ≠ .lineComment) := by
  refine ⟨t.endWithSemicolon, rfl, ?_⟩
  obtain ⟨hnone, hout⟩ | ⟨mark, place, hmark, hout⟩ := t.lastMark?_endWithSemicolon
  · simp [Text.IsTerminated, hnone, hout]
  · refine ⟨fun _ _ => ⟨place, _, hout⟩, ?_⟩
    by_cases hline : mark.kind = .lineComment <;> simp [Text.IsTerminated, hmark, hout, hline]

/-- A script may have code and still end in a line comment, which goes on with the semicolon. -/
theorem not_isTerminated_line :
    Builtin.appendSemicolon.stage.process ⟨"a.js", .js, true⟩ "a // x" () =
        ⟨.ok (.text "a // x;"), (), []⟩ ∧
      (∃ mark ∈ ("a // x" : Text).marks .js, mark.kind = .plain ∧ mark.code.isBlank = false) ∧
      ¬ ("a // x;" : Text).IsTerminated := by
  have hout : ("a // x" : Text).endWithSemicolon = "a // x;" := by decide +kernel
  have hlast : ("a // x;" : Text).lastMark? = some ⟨6, .lineComment, Text.semicolon⟩ := by
    decide +kernel
  refine ⟨?_, by decide +kernel, ?_⟩
  · rw [← hout]
    rfl
  · simp [Text.IsTerminated, hlast]

end WebLint
