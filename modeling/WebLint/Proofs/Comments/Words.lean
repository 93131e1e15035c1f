import Mathlib.Data.List.Chain
import WebLint.Proofs.Comments.Segmentation

namespace WebLint

def Code.isWordPart (c : Code) : Bool :=
  c.isAsciiLetter || c.isAsciiDigit || c == '_' || c == '$'

/-- A code point of a text, with its place and the kind of the segment that it is in. -/
structure Mark where
  place : Nat
  kind : SegmentKind
  code : Code
deriving DecidableEq

namespace Mark

def IsWordPart (m : Mark) : Prop :=
  m.kind = .plain ∧ m.code.isWordPart = true

/-- If two neighbours are of words, they were neighbours before. -/
def KeepsApart (m m' : Mark) : Prop :=
  m.IsWordPart → m'.IsWordPart → m'.place = m.place + 1

instance (m : Mark) : Decidable m.IsWordPart :=
  inferInstanceAs (Decidable (_ ∧ _))

instance : DecidableRel KeepsApart := fun _ _ =>
  inferInstanceAs (Decidable (_ → _ → _))

end Mark

namespace Segment

def marksOf (kind : SegmentKind) : (place : Nat) → Text → List Mark
  | _, [] => []
  | place, c :: r => ⟨place, kind, c⟩ :: marksOf kind (place + 1) r

def marksFrom : (place : Nat) → List Segment → List Mark
  | _, [] => []
  | place, s :: ss => marksOf s.kind place s.text ++ marksFrom (place + s.text.length) ss

/-- The marks of segments from some place on, without those of comments. -/
def keptFrom (place : Nat) (ss : List Segment) : List Mark :=
  (marksFrom place ss).filter (·.kind ≠ .comment)

def JoinWords (ss : List Segment) : Prop :=
  ∃ before c comments d after,
    ss = before ++ ⟨.plain, [c]⟩ :: (comments ++ ⟨.plain, [d]⟩ :: after) ∧ comments ≠ [] ∧
      (∀ s ∈ comments, s.kind = .comment) ∧ c.isWordPart = true ∧ d.isWordPart = true

/-! ### Marks -/

theorem map_code_marksOf (kind : SegmentKind) (place : Nat) (t : Text) :
    (marksOf kind place t).map (·.code) = t := by
  induction t generalizing place with
  | nil => rfl
  | cons c r ih => rw [marksOf, List.map_cons, ih]

theorem map_place_marksOf (kind : SegmentKind) (place : Nat) (t : Text) :
    (marksOf kind place t).map (·.place) = List.range' place t.length := by
  induction t generalizing place with
  | nil => rfl
  | cons c r ih => rw [marksOf, List.map_cons, ih, List.length_cons, List.range'_succ]

theorem kind_of_mem_marksOf {kind : SegmentKind} {place : Nat} {t : Text} {m : Mark}
    (hm : m ∈ marksOf kind place t) : m.kind = kind := by
  induction t generalizing place with
  | nil => cases hm
  | cons c r ih =>
    obtain rfl | hm := List.mem_cons.mp hm
    · rfl
    · exact ih hm

theorem map_code_marksFrom (place : Nat) (ss : List Segment) :
    (marksFrom place ss).map (·.code) = ss.flatMap (·.text) := by
  induction ss generalizing place with
  | nil => rfl
  | cons s ss ih => rw [marksFrom, List.map_append, map_code_marksOf, ih, List.flatMap_cons]

theorem map_place_marksFrom (place : Nat) (ss : List Segment) :
    (marksFrom place ss).map (·.place) = List.range' place (ss.flatMap (·.text)).length := by
  induction ss generalizing place with
  | nil => rfl
  | cons s ss ih =>
    rw [marksFrom, List.map_append, map_place_marksOf, ih, List.range'_append_1,
      List.flatMap_cons, List.length_append]

/-! ### What is left -/

theorem keptFrom_cons_of_comment {s : Segment} (hs : s.kind = .comment) (place : Nat)
    (ss : List Segment) : keptFrom place (s :: ss) = keptFrom (place + s.text.length) ss := by
  have hmarks : (marksOf s.kind place s.text).filter (·.kind ≠ .comment) = [] := by
    rw [List.filter_eq_nil_iff]
    intro m hm
    simp [kind_of_mem_marksOf hm, hs]
  rw [keptFrom, marksFrom, List.filter_append, hmarks, List.nil_append, keptFrom]

theorem keptFrom_cons_of_ne {s : Segment} (hs : s.kind ≠ .comment) (place : Nat)
    (ss : List Segment) :
    keptFrom place (s :: ss) = marksOf s.kind place s.text ++ keptFrom (place + s.text.length) ss := by
  have hmarks : (marksOf s.kind place s.text).filter (·.kind ≠ .comment) =
      marksOf s.kind place s.text := by
    rw [List.filter_eq_self]
    intro m hm
    simp [kind_of_mem_marksOf hm, hs]
  rw [keptFrom, marksFrom, List.filter_append, hmarks, keptFrom]

theorem keptFrom_append (place : Nat) (ss ss' : List Segment) :
    keptFrom place (ss ++ ss') =
      keptFrom place ss ++ keptFrom (place + (ss.flatMap (·.text)).length) ss' := by
  induction ss generalizing place with
  | nil => rfl
  | cons s ss ih =>
    have hplace : place + s.text.length + (ss.flatMap (·.text)).length =
        place + ((s :: ss).flatMap (·.text)).length := by
      rw [List.flatMap_cons, List.length_append, Nat.add_assoc]
    rw [List.cons_append]
    by_cases hs : s.kind = .comment
    · rw [keptFrom_cons_of_comment hs, keptFrom_cons_of_comment hs, ih, hplace]
    · rw [keptFrom_cons_of_ne hs, keptFrom_cons_of_ne hs, ih, hplace, List.append_assoc]

theorem keptFrom_of_comments {ss : List Segment} (h : ∀ s ∈ ss, s.kind = .comment) (place : Nat) :
    keptFrom place ss = [] := by
  induction ss generalizing place with
  | nil => rfl
  | cons s ss ih =>
    rw [keptFrom_cons_of_comment (h s List.mem_cons_self)]
    exact ih (fun s hs => h s (List.mem_cons_of_mem _ hs)) _

theorem map_code_keptFrom (place : Nat) (ss : List Segment) :
    (keptFrom place ss).map (·.code) = (ss.filter (·.kind ≠ .comment)).flatMap (·.text) := by
  induction ss generalizing place with
  | nil => rfl
  | cons s ss ih =>
    by_cases hs : s.kind = .comment
    · rw [keptFrom_cons_of_comment hs, ih, List.filter_cons_of_neg (by simp [hs])]
    · rw [keptFrom_cons_of_ne hs, List.map_append, map_code_marksOf, ih,
        List.filter_cons_of_pos (by simp [hs]), List.flatMap_cons]

/-! ### Neighbours -/

/-- No segment is empty, and a plain one is a single code point. -/
def Sized (s : Segment) : Prop :=
  s.text ≠ [] ∧ (s.kind = .plain → ∃ c, s.text = [c])

theorem Shape.sized {type : ResourceType} {s : Segment} {rest : Text}
    (h : Shape type s.kind s.text rest) : s.Sized := by
  refine ⟨h.ne_nil, fun hkind => ?_⟩
  obtain ⟨k, text⟩ := s
  cases hkind
  cases h with
  | plain => exact ⟨_, rfl⟩

theorem isChain_marksOf (kind : SegmentKind) (place : Nat) (t : Text) :
    (marksOf kind place t).IsChain Mark.KeepsApart := by
  induction t generalizing place with
  | nil => exact .nil
  | cons c r ih =>
    cases r with
    | nil => exact .singleton _
    | cons d r => exact .cons_cons (fun _ _ => rfl) (ih (place + 1))

theorem exists_of_head?_keptFrom {ss : List Segment} (hss : ∀ s ∈ ss, s.Sized) {place : Nat}
    {m : Mark} (hm : (keptFrom place ss).head? = some m) :
    ∃ comments s after, ss = comments ++ s :: after ∧ (∀ s ∈ comments, s.kind = .comment) ∧
      m.kind = s.kind ∧ s.text.head? = some m.code ∧
      m.place = place + (comments.flatMap (·.text)).length := by
  induction ss generalizing place with
  | nil => cases hm
  | cons s ss ih =>
    by_cases hs : s.kind = .comment
    · rw [keptFrom_cons_of_comment hs] at hm
      obtain ⟨comments, s', after, rfl, hcomments, hkind, hcode, hplace⟩ :=
        ih (fun s hs => hss s (List.mem_cons_of_mem _ hs)) hm
      refine ⟨s :: comments, s', after, rfl, List.forall_mem_cons.mpr ⟨hs, hcomments⟩, hkind,
        hcode, ?_⟩
      rw [hplace, List.flatMap_cons, List.length_append, Nat.add_assoc]
    · obtain ⟨c, r, htext⟩ := List.exists_cons_of_ne_nil (hss s List.mem_cons_self).1
      rw [keptFrom_cons_of_ne hs, htext, marksOf] at hm
      cases hm
      exact ⟨[], s, ss, rfl, by simp, rfl, by rw [htext, List.head?_cons], rfl⟩

theorem JoinWords.cons {ss : List Segment} (h : JoinWords ss) (s : Segment) :
    JoinWords (s :: ss) := by
  obtain ⟨before, c, comments, d, after, rfl, h⟩ := h
  exact ⟨s :: before, c, comments, d, after, rfl, h⟩

theorem isChain_keptFrom_of_not_joinWords {ss : List Segment} (hss : ∀ s ∈ ss, s.Sized)
    (h : ¬ JoinWords ss) (place : Nat) : (keptFrom place ss).IsChain Mark.KeepsApart := by
  induction ss generalizing place with
  | nil => exact .nil
  | cons s ss ih =>
    have hsized : ∀ s ∈ ss, s.Sized := fun s hs => hss s (List.mem_cons_of_mem _ hs)
    have hrest := ih hsized fun hjoin => h (hjoin.cons s)
    by_cases hs : s.kind = .comment
    · rw [keptFrom_cons_of_comment hs]
      exact hrest _
    · rw [keptFrom_cons_of_ne hs]
      refine (isChain_marksOf s.kind place s.text).append (hrest _) ?_
      intro m hm m' hm' hword hword'
      -- The last code point of a segment is of a word only if it is the whole segment.
      have hplain : s.kind = .plain :=
        (kind_of_mem_marksOf (List.mem_of_getLast? hm)).symm.trans hword.1
      obtain ⟨c, htext⟩ := (hss s List.mem_cons_self).2 hplain
      rw [htext] at hm hm'
      cases hm
      obtain ⟨comments, s', after, rfl, hcomments, hkind, hcode, hplace⟩ :=
        exists_of_head?_keptFrom hsized hm'
      obtain ⟨d, htext'⟩ := (hsized s' (by simp)).2 (hkind.symm.trans hword'.1)
      cases comments with
      | nil => exact hplace
      | cons comment comments =>
        exfalso
        apply h
        refine ⟨[], c, comment :: comments, d, after, ?_, List.cons_ne_nil _ _, hcomments,
          hword.2, ?_⟩
        · obtain ⟨k, text⟩ := s
          obtain ⟨k', text'⟩ := s'
          cases hplain
          cases htext
          cases htext'
          cases hkind.symm.trans hword'.1
          rfl
        · rw [htext'] at hcode
          cases hcode
          exact hword'.2

theorem not_isChain_keptFrom_of_joinWords {ss : List Segment} (hss : ∀ s ∈ ss, s.Sized)
    (h : JoinWords ss) (place : Nat) : ¬ (keptFrom place ss).IsChain Mark.KeepsApart := by
  obtain ⟨before, c, comments, d, after, rfl, hne, hcomments, hc, hd⟩ := h
  intro hchain
  have hplain : SegmentKind.plain ≠ .comment := by decide
  rw [keptFrom_append, keptFrom_cons_of_ne hplain, keptFrom_append,
    keptFrom_of_comments hcomments, List.nil_append, keptFrom_cons_of_ne hplain] at hchain
  have hplace := (List.isChain_append_cons_cons.mp hchain).2.1 ⟨rfl, hc⟩ ⟨rfl, hd⟩
  obtain ⟨comment, comments, rfl⟩ := List.exists_cons_of_ne_nil hne
  have hlength := List.length_pos_iff.mpr (hss comment (by simp)).1
  rw [List.flatMap_cons, List.length_append] at hplace
  dsimp only at hplace
  rw [List.length_singleton] at hplace
  omega

end Segment

namespace Text

/-- All code points of a text with their places and kinds. -/
def marks (type : ResourceType) (t : Text) : List Mark :=
  Segment.marksFrom 0 (t.segments type)

def kept (type : ResourceType) (t : Text) : List Mark :=
  (t.marks type).filter (·.kind ≠ .comment)

end Text

/-- Stripping the comments leaves code points at their places. Two words become one if and only if
comments are all that stands between them somewhere. -/
theorem isChain_kept_iff_not_joinWords {σ : Type} (uri : Text) (type : ResourceType) (t : Text) (m : σ) :
    Builtin.stripComments.stage.process ⟨uri, type, true⟩ t m =
        ⟨.ok (.text ((t.kept type).map (·.code))), m, []⟩ ∧
      (t.marks type).map (·.code) = t ∧ (t.marks type).map (·.place) = List.range t.length ∧
      ((t.kept type).IsChain Mark.KeepsApart ↔ ¬ Segment.JoinWords (t.segments type)) := by
  have hsegmentation := Segment.segmentation_segments type t
  have hsized : ∀ s ∈ t.segments type, s.Sized := by
    intro s hs
    obtain ⟨rest, hleads⟩ := hsegmentation.exists_leads hs
    exact hleads.shape.sized
  refine ⟨?_, ?_, ?_, ?_⟩
  · rw [Text.kept, Text.marks, ← Segment.keptFrom, Segment.map_code_keptFrom]
    cases type <;> rfl
  · rw [Text.marks, Segment.map_code_marksFrom, hsegmentation.flatMap_text]
  · rw [Text.marks, Segment.map_place_marksFrom, hsegmentation.flatMap_text, List.range_eq_range']
  · constructor
    · intro hchain hjoin
      exact Segment.not_isChain_keptFrom_of_joinWords hsized hjoin 0 hchain
    · intro hjoin
      exact Segment.isChain_keptFrom_of_not_joinWords hsized hjoin 0

theorem not_isChain_kept_return :
    Builtin.stripComments.stage.process ⟨"a.js", .js, true⟩ "return/**/x" () =
        ⟨.ok (.text "returnx"), (), []⟩ ∧
      ¬ (("return/**/x" : Text).kept .js).IsChain Mark.KeepsApart :=
  ⟨rfl, by decide +kernel⟩

end WebLint
