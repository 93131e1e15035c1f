import WebLint.Number.Power
import WebLint.Text.Fold
import WebLint.Text.Letter
import WebLint.Text.Numeral
import WebLint.Text.Blank

namespace WebLint.Pattern

/-- What changes the meaning of a pattern or of a part of it. -/
structure Flags where
  ignoreCase : Bool := false
  multiLine : Bool := false
  dotAll : Bool := false
  verbose : Bool := false
  ascii : Bool := false
  unicode : Bool := false
  locale : Bool := false
deriving DecidableEq

namespace Flags

def union (f g : Flags) : Flags where
  ignoreCase := f.ignoreCase || g.ignoreCase
  multiLine := f.multiLine || g.multiLine
  dotAll := f.dotAll || g.dotAll
  verbose := f.verbose || g.verbose
  ascii := f.ascii || g.ascii
  unicode := f.unicode || g.unicode
  locale := f.locale || g.locale

/-- Flags inside a group that turns some on and some off. The two character repertoires exclude
each other. -/
def adjust (f on off : Flags) : Flags :=
  let kept := if on.ascii || on.unicode then { f with ascii := false, unicode := false } else f
  let g := kept.union on
  { ignoreCase := g.ignoreCase && !off.ignoreCase
    multiLine := g.multiLine && !off.multiLine
    dotAll := g.dotAll && !off.dotAll
    verbose := g.verbose && !off.verbose
    ascii := g.ascii && !off.ascii
    unicode := g.unicode && !off.unicode
    locale := g.locale && !off.locale }

def disjoint (f g : Flags) : Bool :=
  !(f.ignoreCase && g.ignoreCase) && !(f.multiLine && g.multiLine) && !(f.dotAll && g.dotAll) &&
    !(f.verbose && g.verbose) && !(f.ascii && g.ascii) && !(f.unicode && g.unicode) &&
    !(f.locale && g.locale)

end Flags

inductive Category
  | digit
  | space
  | word
deriving DecidableEq

/-- A member of a set: one code point, a range, or a named class or its complement. -/
inductive SetItem
  | one (c : Code)
  | range (lo hi : Code)
  | category (k : Category) (negated : Bool)
deriving DecidableEq

inductive Anchor
  | lineStart
  | lineEnd
  | textStart
  | textEnd
  | boundary
  | noBoundary
deriving DecidableEq

/-- How a repetition chooses the count: as many as possible, as few as possible, or as many as
possible without giving any back. -/
inductive Greed
  | greedy
  | lazy
  | possessive
deriving DecidableEq

inductive Node
  | literal (c : Code)
  | any
  | set (negated : Bool) (items : List SetItem)
  | anchor (a : Anchor)
  | repetition (greed : Greed) (least : Nat) (most : Option Nat) (body : List Node)
  | group (index : Option Nat) (on off : Flags) (body : List Node)
  | branch (alternatives : List (List Node))
  | look (behind negated : Bool) (body : List Node)
  | backreference (group : Nat)
  | conditional (group : Nat) (yes no : List Node)
  | atomic (body : List Node)

def widthLimit : Nat :=
  0x10000000000000000

abbrev Width := Nat × Nat

namespace Width

def add (v w : Width) : Width :=
  (v.1 + w.1, v.2 + w.2)

def capped (w : Width) : Width :=
  (min w.1 widthLimit, min w.2 widthLimit)

def join (v w : Width) : Width :=
  (min v.1 w.1, max v.2 w.2)

end Width

mutual

def Node.width (groups : Nat → Width) : Node → Width
  | .literal _ => (1, 1)
  | .any => (1, 1)
  | .set _ _ => (1, 1)
  | .anchor _ => (0, 0)
  | .repetition _ least most body =>
    let w := sequenceWidth groups body
    let greatest := match most with
      | some n => w.2 * n
      | none => if w.2 = 0 then 0 else widthLimit
    (w.1 * least, greatest)
  | .group _ _ _ body => sequenceWidth groups body
  | .branch alternatives => branchWidth groups alternatives
  | .look _ _ _ => (0, 0)
  | .backreference n => groups n
  | .conditional _ yes no => (sequenceWidth groups yes).join (sequenceWidth groups no)
  | .atomic body => sequenceWidth groups body

def sequenceWidth (groups : Nat → Width) : List Node → Width
  | [] => (0, 0)
  | n :: ns => ((n.width groups).add (sequenceWidth groups ns)).capped

def branchWidth (groups : Nat → Width) : List (List Node) → Width
  | [] => (widthLimit, 0)
  | [b] => sequenceWidth groups b
  | b :: bs => (sequenceWidth groups b).join (branchWidth groups bs)

end

/-- Does a code point belong to a class? The classes span all scripts unless limited to ASCII. -/
def Category.has (k : Category) (ascii : Bool) (c : Code) : Bool :=
  match k with
  | .digit => if ascii then c.isAsciiDigit else c.isDecimal
  | .space => if ascii then (0x9 ≤ c.val && c.val ≤ 0xd) || c.val == 0x20 else c.isBlank
  | .word =>
    if ascii then c.isAsciiDigit || c.isAsciiLetter || c.val == 0x5f else c.isWord

def lowerSources (l : Code) : List Code :=
  let sources := lowerRuns.filterMap fun r =>
    if r.2.2.2 ≤ l.val ∧ r.1 + (l.val - r.2.2.2) ≤ r.2.1 ∧ (l.val - r.2.2.2) % r.2.2.1 = 0 then
      some (Code.ofNat (r.1 + (l.val - r.2.2.2)))
    else none
  if l.toLower = l then l :: sources else sources

def foldCase (ascii : Bool) (c : Code) : Code :=
  if ascii && 0x80 ≤ c.val then c else c.toLower

def variants (ascii : Bool) (c : Code) : List Code :=
  let l := foldCase ascii c
  if ascii then if l.isAsciiLetter then [l, Code.ofNat (l.val - 0x20)] else [c]
  else (l :: l.companions).flatMap lowerSources

def sameLetter (f : Flags) (a c : Code) : Bool :=
  if f.ignoreCase then
    let l := foldCase f.ascii a
    let m := foldCase f.ascii c
    l == m || (!f.ascii && l.companions.contains m)
  else a == c

def SetItem.has (f : Flags) (c : Code) : SetItem → Bool
  | one a => sameLetter f a c
  | range lo hi =>
    if f.ignoreCase then
      (variants f.ascii c).any fun v => lo.val ≤ v.val && v.val ≤ hi.val
    else lo.val ≤ c.val && c.val ≤ hi.val
  | category k negated => k.has f.ascii c != negated

end WebLint.Pattern
