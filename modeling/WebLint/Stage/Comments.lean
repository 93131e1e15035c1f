import WebLint.Resource
import WebLint.Text.Lines

namespace WebLint

inductive SegmentKind
  | literal
  | url
  | template
  | lineComment
  | licence
  | comment
  | plain
deriving DecidableEq

structure Segment where
  kind : SegmentKind
  text : Text
deriving DecidableEq

namespace Segment

abbrev Split := Text × Text

def after (c : Code) (s : Split) : Split :=
  (c :: s.1, s.2)

/-- The text up to the closing quote, which is included. A backslash takes the code point behind it
along; code points that are not admitted end the search without success. -/
def quotedEnd? (quote : Code) (admitted : Code → Bool) : Text → Option Split
  | [] => none
  | c :: r =>
    if c = quote then some ([c], r)
    else if c = '\\' then
      match r with
      | [] => none
      | d :: r' => (quotedEnd? quote admitted r').map fun s => after c (after d s)
    else if admitted c then (quotedEnd? quote admitted r).map (after c)
    else none

def closed? (last : Code) : Text → Option Split
  | [] => none
  | c :: r => if c = last then some ([c], r) else (closed? last r).map (after c)

def commentEnd? : Text → Option Split
  | c :: d :: r =>
    if c = '*' ∧ d = '/' then some ([c, d], r) else (commentEnd? (d :: r)).map (after c)
  | _ => none

/-- The body of an address in parentheses, up to the closing one: white space, then something other
than a quote or a parenthesis. -/
def urlEnd? (t : Text) : Option Split :=
  let blanks := t.takeWhile Code.isBlank
  match t.dropWhile Code.isBlank with
  | [] => none
  | c :: r =>
    if c = '"' ∨ c = '\'' ∨ c = ')' then none
    else (closed? ')' r).map fun s => (blanks ++ c :: s.1, s.2)

def opened? (kind : SegmentKind) (opener t : Text) (rest? : Text → Option Split) :
    Option (Segment × Text) :=
  (t.dropPrefix? opener).bind fun r => (rest? r).map fun s => (⟨kind, opener ++ s.1⟩, s.2)

def lineEnd (t : Text) : Split :=
  (t.takeWhile (· ≠ lineFeed), t.dropWhile (· ≠ lineFeed))

/-- The openers with the ends that belong to them, the first that applies being the one that
counts. -/
def openers (type : ResourceType) : List (SegmentKind × Text × (Text → Option Split)) :=
  let strings := [
    (SegmentKind.literal, Text.ofString "'", quotedEnd? '\'' (· ≠ lineFeed)),
    (SegmentKind.literal, Text.ofString "\"", quotedEnd? '"' (· ≠ lineFeed))]
  let others := match type with
    | .css => [(SegmentKind.url, Text.ofString "url(", urlEnd?)]
    | .js => [
      (SegmentKind.template, Text.ofString "\x60", quotedEnd? backquote fun _ => true),
      (SegmentKind.lineComment, Text.ofString "//", fun r => some (lineEnd r))]
  strings ++ others ++ [
    (SegmentKind.licence, Text.ofString "/*!", commentEnd?),
    (SegmentKind.comment, Text.ofString "/*", commentEnd?)]
where
  backquote : Code := Code.ofNat 0x60

def first (type : ResourceType) (c : Code) (r : Text) : Segment × Text :=
  match (openers type).findSome? fun o => opened? o.1 o.2.1 (c :: r) o.2.2 with
  | some s => s
  | none => (⟨.plain, [c]⟩, r)

def segmentsFrom (type : ResourceType) : (skip : Nat) → Text → List Segment
  | _, [] => []
  | skip + 1, _ :: r => segmentsFrom type skip r
  | 0, c :: r =>
    let s := (first type c r).1
    s :: segmentsFrom type (s.text.length - 1) r

end Segment

def Text.segments (type : ResourceType) (t : Text) : List Segment :=
  Segment.segmentsFrom type 0 t

def Text.withoutComments (type : ResourceType) (t : Text) : Text :=
  ((t.segments type).filter (·.kind ≠ .comment)).flatMap (·.text)

end WebLint
