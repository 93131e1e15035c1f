import WebLint.Pattern.Reader

namespace WebLint.Pattern

/-- A place in a text: what stands before it, nearest first, and what stands behind it. -/
structure Place where
  before : Text
  after : Text
  offset : Nat

/-- Start and end of the groups that took part in the match, the latest first. -/
abbrev Captures := List (Nat × Nat × Nat)

abbrev Found := Place × Captures

abbrev Matcher := Place → Captures → (Place → Captures → Option Found) → Option Found

namespace Place

def step? (p : Place) : Option (Code × Place) :=
  match p.after with
  | [] => none
  | c :: r => some (c, ⟨c :: p.before, r, p.offset + 1⟩)

def back? (p : Place) (n : Nat) : Option Place :=
  if p.before.length < n then none
  else some ⟨p.before.drop n, (p.before.take n).reverse ++ p.after, p.offset - n⟩

def whole (p : Place) : Text :=
  p.before.reverse ++ p.after

end Place

namespace Matcher

def done : Matcher := fun p s k => k p s

def one (ok : Code → Bool) : Matcher := fun p s k =>
  match p.step? with
  | some (c, q) => if ok c then k q s else none
  | none => none

def andThen (m n : Matcher) : Matcher := fun p s k =>
  m p s fun q t => n q t k

def orElse (m n : Matcher) : Matcher := fun p s k =>
  match m p s k with
  | some f => some f
  | none => n p s k

def test (ok : Place → Bool) : Matcher := fun p s k =>
  if ok p then k p s else none

def commit (m : Matcher) : Matcher := fun p s k =>
  match m p s fun q t => some (q, t) with
  | some (q, t) => k q t
  | none => none

def times (m : Matcher) : Nat → Matcher
  | 0 => done
  | n + 1 => m.andThen (times m n)

def fewer (left : Option Nat) : Option Nat :=
  left.map (· - 1)

/-- As many rounds as possible, at most `left`. After a round that takes no text no further one is
tried. Every round but such a last one takes text, so `fuel` bounds them. -/
def greedily (m : Matcher) : (fuel : Nat) → (left : Option Nat) → Matcher
  | 0, _ => done
  | fuel + 1, left => fun p s k =>
    if left = some 0 then k p s
    else
      match m p s fun q t =>
          if q.offset = p.offset then k q t else greedily m fuel (fewer left) q t k with
      | some f => some f
      | none => k p s

def lazily (m : Matcher) : (fuel : Nat) → (left : Option Nat) → Matcher
  | 0, _ => done
  | fuel + 1, left => fun p s k =>
    match k p s with
    | some f => some f
    | none =>
      if left = some 0 then none
      else
        m p s fun q t =>
          if q.offset = p.offset then k q t else lazily m fuel (fewer left) q t k

def repetition (greed : Greed) (least : Nat) (most : Option Nat) (m : Matcher) : Matcher :=
  let left := most.map (· - least)
  match greed with
  | .greedy => (times m least).andThen fun p => greedily m (p.after.length + 2) left p
  | .lazy => (times m least).andThen fun p => lazily m (p.after.length + 2) left p
  | .possessive =>
    (times (commit m) least).andThen
      (commit fun p => greedily (commit m) (p.after.length + 2) left p)

def capture (index : Option Nat) (m : Matcher) : Matcher :=
  match index with
  | none => m
  | some n => fun p s k => m p s fun q t => k q ((n, p.offset, q.offset) :: t)

def look (behind negated : Bool) (width : Nat) (m : Matcher) : Matcher := fun p s k =>
  let found := match if behind then p.back? width else some p with
    | none => none
    | some q => m q s fun q' t => some (q', t)
  match found, negated with
  | some (_, t), false => k p t
  | none, true => k p s
  | _, _ => none

def again (same : Code → Code → Bool) : Text → Matcher
  | [] => done
  | c :: r => (one (same c)).andThen (again same r)

end Matcher

def groupText? (whole : Text) (s : Captures) (n : Nat) : Option Text :=
  (s.lookup n).map fun (a, b) => (whole.drop a).take (b - a)

def isWordFor (f : Flags) (c : Code) : Bool :=
  Category.word.has f.ascii c

def atBoundary (f : Flags) (p : Place) : Bool :=
  (p.before.head?.map (isWordFor f)).getD false != (p.after.head?.map (isWordFor f)).getD false

/-- Is a place as an anchor wants it? In an empty text there is neither a boundary nor a place
without one. -/
def Anchor.holds (a : Anchor) (f : Flags) (p : Place) : Bool :=
  let newline := Code.ofNat 0xa
  match a with
  | .textStart => p.before.isEmpty
  | .textEnd => p.after.isEmpty
  | .lineStart => p.before.isEmpty || (f.multiLine && p.before.head? == some newline)
  | .lineEnd =>
    p.after.isEmpty || p.after == [newline] || (f.multiLine && p.after.head? == some newline)
  | .boundary => !(p.before.isEmpty && p.after.isEmpty) && atBoundary f p
  | .noBoundary => !(p.before.isEmpty && p.after.isEmpty) && !atBoundary f p

mutual

/-- The matcher of a node, under flags and with the widths of the groups. -/
def Node.matcher (groups : List Width) (f : Flags) : Node → Matcher
  | .literal c => .one (sameLetter f c)
  | .any => .one fun c => f.dotAll || c.val != 0xa
  | .set negated items => .one fun c => items.any (·.has f c) != negated
  | .anchor a => .test (a.holds f)
  | .repetition greed least most body =>
    .repetition greed least most (sequenceMatcher groups f body)
  | .group index on off body => .capture index (sequenceMatcher groups (f.adjust on off) body)
  | .branch alternatives => branchMatcher groups f alternatives
  | .look behind negated body =>
    .look behind negated (sequenceWidth (groupWidth groups) body).1 (sequenceMatcher groups f body)
  | .backreference n => fun p s k =>
    match groupText? p.whole s n with
    | none => none
    | some t =>
      let same (a b : Code) : Bool :=
        if f.ignoreCase then foldCase f.ascii a == foldCase f.ascii b else a == b
      Matcher.again same t p s k
  | .conditional n yes no => fun p s k =>
    if (s.lookup n).isSome then sequenceMatcher groups f yes p s k
    else sequenceMatcher groups f no p s k
  | .atomic body => .commit (sequenceMatcher groups f body)

def sequenceMatcher (groups : List Width) (f : Flags) : List Node → Matcher
  | [] => .done
  | n :: ns => .andThen (n.matcher groups f) (sequenceMatcher groups f ns)

def branchMatcher (groups : List Width) (f : Flags) : List (List Node) → Matcher
  | [] => fun _ _ _ => none
  | b :: bs => .orElse (sequenceMatcher groups f b) (branchMatcher groups f bs)

end

namespace Compiled

def matcher (c : Compiled) : Matcher :=
  sequenceMatcher c.groups c.flags c.body

def matchAt (m : Matcher) (nonempty : Bool) (p : Place) : Option Found :=
  m p [] fun q s => if nonempty && q.offset == p.offset then none else some (q, s)

/-- The first match at or behind a place: where it starts, and what it is. An empty match at the
place itself does not count if `nonempty`. -/
def searchFrom (m : Matcher) (nonempty : Bool) (before : Text) (offset : Nat) :
    Text → Option (Place × Found)
  | [] =>
    let p : Place := ⟨before, [], offset⟩
    (matchAt m nonempty p).map (p, ·)
  | c :: r =>
    let p : Place := ⟨before, c :: r, offset⟩
    match matchAt m nonempty p with
    | some f => some (p, f)
    | none => searchFrom m false (c :: before) (offset + 1) r

/-- All matches from a place on, from left to right: the start, the end and the groups. A match
must not be empty where the one before it ended. Each match but an empty first one moves on, so
`fuel` bounds them. -/
def matchesFrom (m : Matcher) : (fuel : Nat) → (nonempty : Bool) → Place →
    List (Place × Found)
  | 0, _, _ => []
  | fuel + 1, nonempty, p =>
    match searchFrom m nonempty p.before p.offset p.after with
    | none => []
    | some (start, (stop, s)) =>
      (start, (stop, s)) :: matchesFrom m fuel (start.offset == stop.offset) stop

def allMatches (c : Compiled) (t : Text) : List (Place × Found) :=
  matchesFrom c.matcher (2 * t.length + 2) false ⟨[], t, 0⟩

end Compiled

end WebLint.Pattern
