import Mathlib.Algebra.GroupWithZero.Nat
import Mathlib.Data.List.TakeWhile
import WebLint.Display.Markup
import WebLint.Proofs.Display.Emoji
import WebLint.Proofs.Traversal

namespace WebLint.Markup

open Emoji (Spares Coded)

def opening : Code := '['

def closing : Code := ']'

def IsTag (body : Text) : Prop :=
  ∃ c r, body = c :: r ∧ startsTag c = true ∧ opening ∉ r ∧ closing ∉ r

def tag (body : Text) : Text :=
  opening :: (body ++ [closing])

/-- A text that means nothing but itself. -/
structure IsLiteral (emoji : Bool) (t : Text) : Prop where
  untagged : ∀ body, IsTag body → ¬ tag body <:+: t
  unescaped : ¬ [backslash, opening] <:+: t
  uncoded : emoji = true → ¬ Coded t

def isMark (c : Code) : Bool :=
  c == opening || c == backslash || c == Emoji.colon

theorem isLiteral_of_not_isMark {t : Text} (h : ∀ c ∈ t, isMark c = false) (emoji : Bool) :
    IsLiteral emoji t := by
  have hnot {c : Code} (hc : isMark c = true) : c ∉ t := fun hm => ne_true_of_eq_false (h c hm) hc
  refine ⟨fun body _ hpart => hnot rfl (hpart.mem List.mem_cons_self),
    fun hpart => hnot rfl (hpart.mem List.mem_cons_self), fun _ hcoded => ?_⟩
  have hcolon : Emoji.colon ∈ t := by cases hcoded <;> simp
  exact hnot rfl hcolon

theorem spares_isMark : Spares isMark :=
  ⟨by decide +kernel, by decide⟩

theorem spares_isBlank : Spares Code.isBlank :=
  ⟨by decide +kernel, by decide⟩

/-! ### Tags that are read -/

theorem val_eq_iff {c d : Code} {n : Nat} (hd : d.val = n) : c.val = n ↔ c = d := by
  subst hd
  exact ⟨Code.eq_of_val_eq, congrArg Code.val⟩

def isBare (c : Code) : Bool :=
  decide (c.val ≠ 0x5b ∧ c.val ≠ 0x5d)

theorem isBare_iff {c : Code} : isBare c = true ↔ c ≠ opening ∧ c ≠ closing := by
  have ho : c.val = 0x5b ↔ c = opening := val_eq_iff rfl
  have hc : c.val = 0x5d ↔ c = closing := val_eq_iff rfl
  rw [isBare, decide_eq_true_iff, Ne, Ne, ho, hc]

theorem forall_isBare_iff {t : Text} :
    (∀ c ∈ t, isBare c = true) ↔ opening ∉ t ∧ closing ∉ t := by
  simp only [isBare_iff]
  constructor
  · intro h
    exact ⟨fun hm => (h _ hm).1 rfl, fun hm => (h _ hm).2 rfl⟩
  · rintro ⟨ho, hc⟩ c hm
    exact ⟨fun h => ho (h ▸ hm), fun h => hc (h ▸ hm)⟩

theorem takeWhile_append_drop (p : Code → Bool) (t : Text) :
    t.takeWhile p ++ t.drop (t.takeWhile p).length = t := by
  have hstart : t.takeWhile p <+: t := List.takeWhile_prefix p
  exact List.prefix_iff_eq_append.mp hstart

/-- A tag is read up to the bracket that closes it. -/
theorem tagBody?_of_isTag {body : Text} (h : IsTag body) (rest : Text) :
    tagBody? (body ++ closing :: rest) = some body := by
  obtain ⟨c, r, rfl, hc, hr⟩ := h
  have hbare : (r ++ closing :: rest).takeWhile isBare = r := by
    rw [List.takeWhile_append_of_pos (forall_isBare_iff.mpr hr)]
    exact List.append_nil r
  rw [List.cons_append, tagBody?]
  change (if startsTag c && ((r ++ closing :: rest).drop
    ((r ++ closing :: rest).takeWhile isBare).length).head? == some closing
    then some (c :: (r ++ closing :: rest).takeWhile isBare) else none) = _
  rw [hbare, List.drop_left, hc]
  rfl

theorem isTag_of_tagBody? {t body : Text} (h : tagBody? t = some body) :
    IsTag body ∧ ∃ rest, t = body ++ closing :: rest := by
  cases t with
  | nil => cases h
  | cons c r =>
    change (if startsTag c && (r.drop (r.takeWhile isBare).length).head? == some closing
      then some (c :: r.takeWhile isBare) else none) = some body at h
    obtain ⟨hcond, h⟩ := Option.ite_none_right_eq_some.mp h
    obtain rfl := Option.some.inj h
    obtain ⟨hc, hend⟩ := Bool.and_eq_true_iff.mp hcond
    obtain ⟨rest, hrest⟩ := List.head?_eq_some_iff.mp (beq_iff_eq.mp hend)
    have hbare := forall_isBare_iff.mp fun d (hd : d ∈ r.takeWhile isBare) =>
      List.mem_takeWhile_imp hd
    refine ⟨⟨c, _, rfl, hc, hbare⟩, rest, ?_⟩
    rw [List.cons_append, ← hrest, takeWhile_append_drop]

/-- A tag that is found: the backslashes in front of it, what it holds, and what follows. -/
theorem tagAt?_eq_some {c : Code} {t body : Text} {n : Nat} (h : tagAt? (c :: t) = some (n, body)) :
    IsTag body ∧
      c :: t = List.replicate n backslash ++ tag body ++ t.drop (n + body.length + 1) := by
  rw [tagAt?] at h
  have hsplit := takeWhile_append_drop (· = backslash) (c :: t)
  have hrun : (c :: t).takeWhile (· = backslash) =
      List.replicate ((c :: t).takeWhile (· = backslash)).length backslash := by
    rw [List.eq_replicate_iff]
    refine ⟨rfl, fun d hd => ?_⟩
    have hd := List.mem_takeWhile_imp hd
    exact decide_eq_true_iff.mp hd
  generalize ((c :: t).takeWhile (· = backslash)).length = k at h hsplit hrun
  split at h
  · cases h
  · next d r hdrop =>
    obtain ⟨hd, h⟩ := Option.ite_none_right_eq_some.mp h
    obtain ⟨body', hbody, heq⟩ := Option.map_eq_some_iff.mp h
    cases heq
    obtain ⟨htag, rest, rfl⟩ := isTag_of_tagBody? hbody
    obtain rfl : d = opening := (val_eq_iff rfl).mp hd
    have hwhole : c :: t = List.replicate n backslash ++ tag body ++ rest := by
      rw [← hsplit, hdrop, hrun, tag]
      simp
    have hlength : (List.replicate n backslash ++ tag body).length = n + body.length + 1 + 1 := by
      simp only [tag, List.length_append, List.length_replicate, List.length_cons, List.length_nil]
      omega
    have hrest : t.drop (n + body.length + 1) = rest := by
      rw [← List.drop_succ_cons (a := c), hwhole, ← hlength, List.drop_left]
    rw [hrest]
    exact ⟨htag, hwhole⟩

theorem tagAt?_of_isTag {body : Text} (h : IsTag body) (rest : Text) :
    tagAt? (tag body ++ rest) = some (0, body) := by
  have hrest : body ++ [closing] ++ rest = body ++ closing :: rest := by simp
  change Option.map (0, ·) (tagBody? (body ++ [closing] ++ rest)) = _
  rw [hrest, tagBody?_of_isTag h]
  rfl

/-! ### Pieces -/

variable {p : Code → Bool}

/-- The code points of a class in pieces; tags are not printed. -/
def Piece.countP (p : Code → Bool) : Piece → Nat
  | .plain t => List.countP p t
  | .tag _ _ => 0

def countPieces (p : Code → Bool) (ps : List Piece) : Nat :=
  (ps.map (Piece.countP p)).sum

theorem countPieces_append (ps qs : List Piece) :
    countPieces p (ps ++ qs) = countPieces p ps + countPieces p qs := by
  rw [countPieces, List.map_append, List.sum_append]
  rfl

theorem countPieces_cons (q : Piece) (ps : List Piece) :
    countPieces p (q :: ps) = q.countP p + countPieces p ps :=
  rfl

theorem countPieces_gathered (t : Text) : countPieces p (gathered t) = t.countP p := by
  cases t with
  | nil => rfl
  | cons c t =>
    change (c :: t).reverse.countP p + 0 = _
    rw [List.countP_reverse, Nat.add_zero]

theorem countPieces_half (k : Nat) :
    countPieces p (if k = 0 then [] else [.plain (List.replicate k backslash)]) =
      (List.replicate k backslash).countP p := by
  cases k with
  | zero => rfl
  | succ k => exact Nat.add_zero _

/-- The pieces of a tag have no more code points of a class than the tag with its backslashes. -/
theorem countPieces_tagPieces_le (position n : Nat) (body : Text) :
    countPieces p (tagPieces position n body) ≤
      (List.replicate n backslash ++ tag body).countP p := by
  have hhalf : (List.replicate (n / 2) backslash).countP p ≤
      (List.replicate n backslash).countP p :=
    (List.replicate_sublist_replicate backslash |>.mpr (Nat.div_le_self n 2)).countP_le
  rw [tagPieces, List.countP_append]
  split
  · rw [countPieces_append, countPieces_half]
    exact Nat.add_le_add hhalf (Nat.le_refl _)
  · rw [countPieces_append, countPieces_half]
    exact Nat.add_le_add hhalf (Nat.zero_le _)

/-- If backslashes and opening brackets are in the class, then they have fewer. -/
theorem countPieces_tagPieces_lt (hopening : p opening = true) (hbackslash : p backslash = true)
    (position n : Nat) (body : Text) :
    countPieces p (tagPieces position n body) <
      (List.replicate n backslash ++ tag body).countP p := by
  rw [tagPieces, List.countP_append, List.countP_replicate, if_pos hbackslash]
  split
  · rw [countPieces_append, countPieces_half, List.countP_replicate, if_pos hbackslash]
    change n / 2 + (tag body).countP p < _
    omega
  · rw [countPieces_append, countPieces_half, List.countP_replicate, if_pos hbackslash]
    change n / 2 + 0 < _
    rw [tag, List.countP_cons_of_pos hopening]
    omega

theorem countPieces_piecesFrom_le (skip position : Nat) (pending t : Text) :
    countPieces p (piecesFrom skip position pending t) ≤
      pending.countP p + (t.drop skip).countP p := by
  induction t generalizing skip position pending with
  | nil =>
    have hpieces : piecesFrom skip position pending [] = gathered pending := by cases skip <;> rfl
    rw [hpieces, countPieces_gathered]
    exact Nat.le_add_right _ _
  | cons c t ih =>
    cases skip with
    | succ skip => exact ih skip (position + 1) pending
    | zero =>
      rw [piecesFrom, List.drop_zero]
      cases htag : tagAt? (c :: t) with
      | none =>
        have hrest := ih 0 (position + 1) (c :: pending)
        rw [List.countP_cons, List.drop_zero] at hrest
        rw [List.countP_cons]
        dsimp only
        omega
      | some found =>
        obtain ⟨n, body⟩ := found
        obtain ⟨-, hwhole⟩ := tagAt?_eq_some htag
        have hrest := ih (n + body.length + 1) (position + 1) []
        have hpieces := countPieces_tagPieces_le (p := p) position n body
        rw [List.countP_nil] at hrest
        rw [hwhole, List.countP_append]
        dsimp only
        rw [countPieces_append, countPieces_append, countPieces_gathered]
        omega

theorem countPieces_piecesFrom_lt (hopening : p opening = true) (hbackslash : p backslash = true)
    {body t : Text} (hbody : IsTag body) (h : tag body <:+: t) (position : Nat) (pending : Text) :
    countPieces p (piecesFrom 0 position pending t) < pending.countP p + t.countP p := by
  induction t generalizing position pending with
  | nil => cases List.eq_nil_of_infix_nil h
  | cons c t ih =>
    rw [piecesFrom]
    cases htag : tagAt? (c :: t) with
    | none =>
      have hpart : tag body <:+: t := by
        obtain ⟨rest, hrest⟩ | hpart := List.infix_cons_iff.mp h
        · rw [← hrest, tagAt?_of_isTag hbody] at htag
          cases htag
        · exact hpart
      have hrest := ih hpart (position + 1) (c :: pending)
      rw [List.countP_cons] at hrest
      rw [List.countP_cons]
      dsimp only
      omega
    | some found =>
      obtain ⟨n, body'⟩ := found
      obtain ⟨-, hwhole⟩ := tagAt?_eq_some htag
      have hrest := countPieces_piecesFrom_le (p := p) (n + body'.length + 1) (position + 1) [] t
      have hpieces := countPieces_tagPieces_lt hopening hbackslash position n body'
      rw [List.countP_nil] at hrest
      rw [hwhole, List.countP_append]
      dsimp only
      rw [countPieces_append, countPieces_append, countPieces_gathered]
      omega

theorem piecesFrom_of_untagged {t : Text} (h : ∀ body, IsTag body → ¬ tag body <:+: t)
    (position : Nat) (pending : Text) :
    piecesFrom 0 position pending t = gathered (t.reverse ++ pending) := by
  induction t generalizing position pending with
  | nil => rfl
  | cons c t ih =>
    have htag : tagAt? (c :: t) = none := by
      rw [Option.eq_none_iff_forall_ne_some]
      rintro ⟨n, body⟩ htag
      obtain ⟨hbody, hwhole⟩ := tagAt?_eq_some htag
      exact h body hbody ⟨List.replicate n backslash, _, hwhole.symm⟩
    have hrest := ih (fun body hbody hpart => h body hbody (List.infix_cons hpart))
      (position + 1) (c :: pending)
    rw [piecesFrom, htag, List.reverse_cons, List.append_assoc, List.singleton_append]
    exact hrest

/-! ### What is printed of pieces -/

theorem countP_unescape_le (t : Text) : (unescape t).countP p ≤ t.countP p := by
  fun_induction unescape t with
  | case1 => exact Nat.le_refl _
  | case2 => exact Nat.le_refl _
  | case3 c d r _ ih =>
    simp only [List.countP_cons]
    omega
  | case4 c d r _ ih =>
    rw [List.countP_cons, List.countP_cons]
    omega

theorem countP_unescape_lt (hbackslash : p backslash = true) {t : Text}
    (h : [backslash, opening] <:+: t) : (unescape t).countP p < t.countP p := by
  fun_induction unescape t with
  | case1 => cases List.eq_nil_of_infix_nil h
  | case2 c =>
    have hlength := h.length_le
    simp at hlength
  | case3 c d r hcd _ =>
    have hrest := countP_unescape_le (p := p) r
    obtain ⟨rfl, -⟩ := hcd
    rw [List.countP_cons_of_pos hbackslash, List.countP_cons, List.countP_cons]
    omega
  | case4 c d r hcd ih =>
    have hpart : [backslash, opening] <:+: d :: r := by
      obtain ⟨rest, hrest⟩ | hpart := List.infix_cons_iff.mp h
      · cases hrest
        exact absurd ⟨rfl, rfl⟩ hcd
      · exact hpart
    have hrest := ih hpart
    rw [List.countP_cons, List.countP_cons]
    omega

theorem unescape_eq {t : Text} (h : ¬ [backslash, opening] <:+: t) : unescape t = t := by
  fun_induction unescape t with
  | case1 => rfl
  | case2 => rfl
  | case3 c d r hcd _ =>
    obtain ⟨rfl, hd⟩ := hcd
    obtain rfl : d = opening := (val_eq_iff rfl).mp hd
    exact absurd ⟨[], r, rfl⟩ h
  | case4 c d r _ ih => rw [ih fun hpart => h (List.infix_cons hpart)]

theorem countP_plainPiece_le (hp : Spares p) (emoji : Bool) (t : Text) :
    (plainPiece emoji t).countP p ≤ t.countP p := by
  rw [plainPiece]
  split
  · exact Nat.le_trans (Emoji.countP_replaced_le hp _) (countP_unescape_le t)
  · exact countP_unescape_le t

theorem countP_plainText_le (hp : Spares p) {emoji : Bool} {opened : List Text} {ps : List Piece}
    {t : Text} (h : plainText emoji opened ps = .ok t) : t.countP p ≤ countPieces p ps := by
  fun_induction plainText emoji opened ps generalizing t with
  | case1 =>
    cases h
    exact Nat.le_refl _
  | case2 opened u ps ih =>
    obtain ⟨v, hv, rfl⟩ := map_eq_ok_iff.mp h
    rw [List.countP_append, countPieces_cons]
    exact Nat.add_le_add (countP_plainPiece_le hp emoji u) (ih hv)
  | case4 => cases h
  | case7 => cases h
  -- The other tags only change which tags are open.
  | case3 | case5 | case6 | case8 =>
    rename_i ih
    exact Nat.le_trans (ih h) (Nat.le_add_left _ _)

theorem plainText_gathered (emoji : Bool) (t : Text) :
    plainText emoji [] (gathered t.reverse) = .ok (plainPiece emoji t) := by
  cases t with
  | nil => cases emoji <;> rfl
  | cons c t =>
    have hgathered : gathered (c :: t).reverse = [.plain (c :: t)] := by
      simp [gathered]
    rw [hgathered]
    change (Except.ok (plainPiece emoji (c :: t) ++ []) : Except Fault Text) = _
    rw [List.append_nil]

/-! ### Marked texts -/

theorem exists_of_render {emoji : Bool} {t u : Text} (h : render emoji t = .ok u) :
    ∃ v, plainText emoji [] (piecesFrom 0 0 [] t) = .ok v ∧ u.countP p ≤ v.countP p := by
  obtain ⟨v, hv, rfl⟩ := map_eq_ok_iff.mp h
  exact ⟨v, hv, List.filter_sublist.countP_le⟩

/-- Printing adds no code point of a class that emoji do not have. -/
theorem countP_render_le (hp : Spares p) {emoji : Bool} {t u : Text} (h : render emoji t = .ok u) :
    u.countP p ≤ t.countP p := by
  obtain ⟨v, hv, hprinted⟩ := exists_of_render (p := p) h
  calc
    u.countP p ≤ v.countP p := hprinted
    _ ≤ countPieces p (piecesFrom 0 0 [] t) := countP_plainText_le hp hv
    _ ≤ ([] : Text).countP p + (t.drop 0).countP p := countPieces_piecesFrom_le 0 0 [] t
    _ = t.countP p := Nat.zero_add _

theorem plainText_of_untagged {t : Text} (h : ∀ body, IsTag body → ¬ tag body <:+: t)
    (emoji : Bool) : plainText emoji [] (piecesFrom 0 0 [] t) = .ok (plainPiece emoji t) := by
  rw [piecesFrom_of_untagged h, List.append_nil]
  exact plainText_gathered emoji t

/-- What is printed of a text with marks has fewer of them. -/
theorem countP_render_lt {emoji : Bool} {t u : Text} (h : render emoji t = .ok u)
    (hblank : ∀ c ∈ t, c.isBlank = false) (hliteral : ¬ IsLiteral emoji t) :
    u.countP isMark < t.countP isMark := by
  obtain ⟨v, hv, hprinted⟩ := exists_of_render (p := isMark) h
  refine Nat.lt_of_le_of_lt hprinted ?_
  by_cases huntagged : ∀ body, IsTag body → ¬ tag body <:+: t
  · rw [plainText_of_untagged huntagged] at hv
    obtain rfl := Except.ok.inj hv
    by_cases hescape : [backslash, opening] <:+: t
    · have hlost := countP_unescape_lt (p := isMark) rfl hescape
      rw [plainPiece]
      split
      · exact Nat.lt_of_le_of_lt (Emoji.countP_replaced_le spares_isMark _) hlost
      · exact hlost
    · have hcodes : ¬ (emoji = true → ¬ Coded t) := fun h => hliteral ⟨huntagged, hescape, h⟩
      obtain ⟨rfl, hcoded⟩ := Classical.not_imp.mp hcodes
      rw [plainPiece, unescape_eq hescape]
      exact Emoji.countP_replaced_lt spares_isMark rfl hblank (Classical.not_not.mp hcoded)
  · obtain ⟨body, htag⟩ := Classical.not_forall.mp huntagged
    obtain ⟨hbody, hpart⟩ := Classical.not_imp.mp htag
    have hlost := countPieces_piecesFrom_lt (p := isMark) rfl rfl hbody
      (Classical.not_not.mp hpart) 0 []
    rw [List.countP_nil, Nat.zero_add] at hlost
    exact Nat.lt_of_le_of_lt (countP_plainText_le spares_isMark hv) hlost

theorem render_of_isLiteral {emoji : Bool} {t : Text} (h : IsLiteral emoji t)
    (hblank : ∀ c ∈ t, c.isBlank = false) (hsignal : ∀ c ∈ t, c.isSignal = false) :
    render emoji t = .ok t := by
  have hpiece : plainPiece emoji t = t := by
    rw [plainPiece, unescape_eq h.unescaped]
    split
    · next hemoji => exact Emoji.replaced_of_not_coded hblank (h.uncoded hemoji)
    · rfl
  have hprinted : t.printed = t := by
    rw [Text.printed, List.filter_eq_self]
    intro c hc
    rw [hsignal c hc]
    rfl
  rw [render, plainText_of_untagged h.untagged, hpiece]
  exact congrArg Except.ok hprinted

end WebLint.Markup
