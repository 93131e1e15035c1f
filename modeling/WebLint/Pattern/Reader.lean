import WebLint.Pattern.Tree
import WebLint.Pattern.Complaint

namespace WebLint.Pattern

/-- One code point, or a backslash with the code point that it escapes. -/
structure Token where
  text : Text
  offset : Nat

/-- The tokens of a text, the first at `offset`, and whether a lone backslash ends it. -/
def tokens (offset : Nat) : Text → List Token × Bool
  | [] => ([], false)
  | c :: r =>
    if c = '\\' then
      match r with
      | [] => ([], true)
      | d :: r' =>
        let (ts, dangling) := tokens (offset + 2) r'
        (⟨[c, d], offset⟩ :: ts, dangling)
    else
      let (ts, dangling) := tokens (offset + 1) r
      (⟨[c], offset⟩ :: ts, dangling)

/-- What is still to be read, and what is known so far. Group `n` is the `n`-th entry of `groups`,
with its width once it is closed. -/
structure Source where
  rest : List Token
  stop : Nat
  dangling : Bool
  flags : Flags := {}
  groups : List (Option Width) := []
  names : List (Text × Nat) := []
  lookbehindGroups : Option Nat := none
  references : List (Nat × Nat) := []

abbrev Reader := StateT Source (Except Complaint)

namespace Reader

def peek : Reader (Option Text) := do
  return (← get).rest.head?.map (·.text)

def offset : Reader Nat := do
  let s ← get
  return match s.rest with
    | t :: _ => t.offset
    | [] => s.stop

def complain {α : Type} (reason : Reason) (back : Nat) : Reader α := do
  throw ⟨reason, some ((← offset) - back)⟩

def advance : Reader Unit := do
  let s ← get
  let rest := s.rest.tail
  if rest.isEmpty && s.dangling then throw ⟨.danglingBackslash, some (s.stop - 1)⟩
  set { s with rest := rest }

def next : Reader (Option Text) := do
  let t ← peek
  advance
  return t

def accept (c : Code) : Reader Bool := do
  if (← peek) = some [c] then
    advance
    return true
  return false

def upTo (p : Code → Bool) : Nat → Reader Text
  | 0 => return []
  | n + 1 => do
    match ← peek with
    | some [c] =>
      if p c then
        advance
        return c :: (← upTo p n)
      else return []
    | _ => return []

/-- All further tokens of one code point in a class, at most as many as there are tokens. -/
def all (p : Code → Bool) : Reader Text := do
  upTo p (← get).rest.length

def name (terminator : Code) (what : Text) : Reader Text := do
  go (← get).rest.length []
where
  go : Nat → Text → Reader Text
    | 0, _ => complain (.missingName what) 0
    | n + 1, done => do
      match ← next with
      | none => unterminated done
      | some t =>
        if t = [terminator] then
          if done.isEmpty then complain (.missingName what) 1 else return done
        else match (← get).rest with
          | [] => unterminated (done ++ t)
          | _ :: _ => go n (done ++ t)
  unterminated (done : Text) : Reader Text :=
    if done.isEmpty then complain (.missingName what) 0
    else complain (.unterminatedName [terminator]) done.length

end Reader

open Reader

def isOctal (c : Code) : Bool :=
  0x30 ≤ c.val && c.val ≤ 0x37

def ofOctal (t : Text) : Nat :=
  t.foldl (fun n c => 8 * n + (c.val - 0x30)) 0

def ofHex (t : Text) : Nat :=
  t.foldl (fun n c => 16 * n + c.hexValue?.getD 0) 0

def isIdentifier (t : Text) : Bool :=
  match t with
  | [] => false
  | c :: r => c.isWord && !c.isDigit && r.all Code.isWord

def groupCount : Reader Nat := do
  return (← get).groups.length + 1

def isClosed (group : Nat) : Reader Bool := do
  return group ≠ 0 && (((← get).groups[group - 1]?).join).isSome

def checkLookbehind (group : Nat) : Reader Unit := do
  match (← get).lookbehindGroups with
  | none => return
  | some n =>
    if !(← isClosed group) then complain .openGroup 0
    if n ≤ group then complain .groupOfSameLookbehind 0

def letterCode (letter code : Nat) (c : Code) : Option Code :=
  if c.val = letter then some (Code.ofNat code) else none

def controlEscape? (c : Code) : Option Code :=
  letterCode 0x61 0x7 c <|> letterCode 0x66 0xc c <|> letterCode 0x6e 0xa c <|>
    letterCode 0x72 0xd c <|> letterCode 0x74 0x9 c <|> letterCode 0x76 0xb c <|>
    letterCode 0x5c 0x5c c

def categoryEscape? (c : Code) : Option SetItem :=
  if c = 'd' then some (.category .digit false)
  else if c = 'D' then some (.category .digit true)
  else if c = 's' then some (.category .space false)
  else if c = 'S' then some (.category .space true)
  else if c = 'w' then some (.category .word false)
  else if c = 'W' then some (.category .word true)
  else none

def hexEscape (c : Code) (n : Nat) : Reader Code := do
  let digits ← upTo (fun d => d.hexValue?.isSome) n
  let escape : Text := '\\' :: c :: digits
  if digits.length ≠ n then complain (.incompleteEscape escape) escape.length
  let v := ofHex digits
  if 0x110000 ≤ v then complain (.badEscape escape) escape.length
  return Code.ofNat v

def namedEscape : Reader Code := do
  if !(← accept '\x7b') then complain .missingBrace 0
  let name ← name '\x7d' "character name"
  complain (.undefinedCharacter name) (name.length + 4)

/-- An octal escape of up to three digits, the first of which is read already. -/
def octalEscape (first : Code) : Reader Code := do
  let digits := first :: (← upTo isOctal 2)
  let escape : Text := '\\' :: digits
  if 0xff < ofOctal digits then complain (.octalOutOfRange escape) escape.length
  return Code.ofNat (ofOctal digits)

def codeEscape? (c : Code) : Reader (Option Code) := do
  if c = 'x' then return some (← hexEscape c 2)
  else if c = 'u' then return some (← hexEscape c 4)
  else if c = 'U' then return some (← hexEscape c 8)
  else if c = 'N' then return some (← namedEscape)
  else return none

def setEscape (c : Code) : Reader SetItem := do
  if c = 'b' then return .one (Code.ofNat 0x8)
  match controlEscape? c, categoryEscape? c with
  | some d, _ => return .one d
  | none, some k => return k
  | none, none =>
    match ← codeEscape? c with
    | some d => return .one d
    | none =>
      if isOctal c then return .one (← octalEscape c)
      if c.isAsciiDigit || c.isAsciiLetter then complain (.badEscape [ '\\', c]) 2
      return .one c

/-- A backreference, or three octal digits; the first digit, which is no zero, is read already. -/
def digitEscape (first : Code) : Reader Node := do
  let second ← upTo Code.isAsciiDigit 1
  let third ← if isOctal first && !second.isEmpty && second.all isOctal then upTo isOctal 1
    else pure []
  let digits := first :: second ++ third
  let escape : Text := '\\' :: digits
  if !third.isEmpty then
    if 0xff < ofOctal digits then complain (.octalOutOfRange escape) escape.length
    return .literal (Code.ofNat (ofOctal digits))
  let group := ofAsciiDigits digits
  if group < (← groupCount) then
    if !(← isClosed group) then complain .openGroup escape.length
    checkLookbehind group
    return .backreference group
  complain (.unknownReference group) (escape.length - 1)

def outerEscape (c : Code) : Reader Node := do
  if c = 'A' then return .anchor .textStart
  else if c = 'b' then return .anchor .boundary
  else if c = 'B' then return .anchor .noBoundary
  else if c = 'Z' then return .anchor .textEnd
  else match categoryEscape? c, controlEscape? c with
  | some k, _ => return .set false [k]
  | none, some d => return .literal d
  | none, none =>
    match ← codeEscape? c with
    | some d => return .literal d
    | none =>
      if c = '0' then
        return .literal (Code.ofNat (ofOctal (← upTo isOctal 2)))
      else if c.isAsciiDigit then digitEscape c
      else if c.isAsciiLetter then complain (.badEscape [ '\\', c]) 2
      else return .literal c

def setToken (t : Text) : Reader SetItem := do
  match t with
  | [_, c] => setEscape c
  | c :: _ => return .one c
  | [] => return .one default

def setItems (start : Nat) : (fuel : Nat) → (done : List SetItem) → Reader (List SetItem)
  | 0, _ => complain .unterminatedSet 0
  | fuel + 1, done => do
    let unterminated : Reader (List SetItem) := do
      complain .unterminatedSet ((← offset) - start)
    match ← next with
    | none => unterminated
    | some this =>
      if this = "]" && !done.isEmpty then return done.reverse
      let first ← setToken this
      if ← accept '-' then
        match ← next with
        | none => unterminated
        | some that =>
          if that = "]" then return (.one '-' :: first :: done).reverse
          let last ← setToken that
          match first, last with
          | .one lo, .one hi =>
            if hi.val < lo.val then complain (.badRange this that) (this.length + 1 + that.length)
            setItems start fuel (.range lo hi :: done)
          | _, _ => complain (.badRange this that) (this.length + 1 + that.length)
      else setItems start fuel (first :: done)

def bracket (start : Nat) : Reader Node := do
  let negated ← accept '^'
  let items ← setItems start ((← get).rest.length + 1) []
  return .set negated items

def countLimit : Nat := 4294967295

/-- The bounds behind an opening brace; none, with nothing read, if it opens no repetition. -/
def bounds? : Reader (Option (Nat × Option Nat)) := do
  let saved ← get
  let start ← offset
  if (← peek) = some "\x7d" then return none
  let lo ← all Code.isAsciiDigit
  let hi ← if ← accept ',' then all Code.isAsciiDigit else pure lo
  if !(← accept '\x7d') then
    set saved
    return none
  let least := ofAsciiDigits lo
  if !lo.isEmpty && countLimit ≤ least then throw ⟨.repetitionTooLarge, none⟩
  if hi.isEmpty then return some (least, none)
  let most := ofAsciiDigits hi
  if countLimit ≤ most then throw ⟨.repetitionTooLarge, none⟩
  if most < least then complain .boundsReversed ((← offset) - start)
  return some (least, some most)

def repeatLast (start : Nat) (least : Nat) (most : Option Nat) (done : List Node) :
    Reader (List Node) := do
  let back := (← offset) - start + 1
  match done with
  | [] => complain .nothingToRepeat back
  | .anchor _ :: _ => complain .nothingToRepeat back
  | .repetition .. :: _ => complain .multipleRepeat back
  | node :: before =>
    let greed ← do
      if ← accept '?' then pure Greed.lazy
      else if ← accept '+' then pure Greed.possessive
      else pure Greed.greedy
    return .repetition greed least most [node] :: before

def flag? (t : Text) : Option Flags :=
  if t = "i" then some { ignoreCase := true }
  else if t = "m" then some { multiLine := true }
  else if t = "s" then some { dotAll := true }
  else if t = "x" then some { verbose := true }
  else if t = "a" then some { ascii := true }
  else if t = "u" then some { unicode := true }
  else none

def isLetters (t : Text) : Bool :=
  t.all fun c => c.isAlphanumeric && !c.isDigit

def flagsOn : (fuel : Nat) → (on : Flags) → (letter : Text) → Reader (Flags × Text)
  | 0, on, letter => return (on, letter)
  | fuel + 1, on, letter => do
    if letter = "L" then complain .localeFlag 0
    let on := on.union ((flag? letter).getD {})
    if on.ascii && on.unicode then complain .repertoiresClash 0
    match ← next with
    | none => complain .missingFlagEnd 0
    | some t =>
      if t = ")" || t = "-" || t = ":" then return (on, t)
      if (flag? t).isNone && t ≠ "L" then
        complain (if isLetters t then .unknownFlag else .missingFlagEnd) t.length
      flagsOn fuel on t

def flagsOff : (fuel : Nat) → (off : Flags) → (letter : Text) → Reader Flags
  | 0, off, _ => return off
  | fuel + 1, off, letter => do
    let flag := (flag? letter).getD {}
    if flag.ascii || flag.unicode || letter = "L" then complain .repertoireOff 0
    let off := off.union flag
    match ← next with
    | none => complain .missingColon 0
    | some t =>
      if t = ":" then return off
      if (flag? t).isNone && t ≠ "L" then
        complain (if isLetters t then .unknownFlag else .missingColon) t.length
      flagsOff fuel off t

/-- Flags inside a group's head, from the first token on: none if they hold for the whole pattern
(and are then noted), else the flags that the group turns on and off. -/
def groupFlags (first : Text) : Reader (Option (Flags × Flags)) := do
  let fuel := (← get).rest.length + 1
  let (on, last) ← if first = "-" then pure ({}, first) else flagsOn fuel {} first
  if last = ")" then
    modify fun s => { s with flags := s.flags.union on }
    return none
  let off ← if last = "-" then do
      match ← next with
      | none => complain .missingFlag 0
      | some t =>
        if (flag? t).isNone && t ≠ "L" then
          complain (if isLetters t then .unknownFlag else .missingFlag) t.length
        flagsOff fuel {} t
    else pure {}
  if !on.disjoint off then complain .flagOnAndOff 1
  return some (on, off)

def openGroup (name : Option Text) : Reader Nat := do
  let s ← get
  let group := s.groups.length + 1
  set { s with groups := s.groups ++ [none] }
  match name with
  | none => return group
  | some n =>
    match s.names.lookup n with
    | some earlier => complain (.redefinedGroup n group earlier) (n.length + 1)
    | none =>
      modify fun s => { s with names := s.names ++ [(n, group)] }
      return group

def closeGroup (group : Nat) (body : List Node) : Reader Unit :=
  modify fun s =>
    let widths (n : Nat) : Width := ((s.groups[n - 1]?).join).getD (0, 0)
    { s with groups := s.groups.set (group - 1) (some (sequenceWidth widths body)) }

def conditionGroup (name : Text) : Reader Nat := do
  if isIdentifier name then
    match (← get).names.lookup name with
    | some n => return n
    | none => complain (.unknownGroup name) (name.length + 1)
  else match looseInteger? name with
  | none | some (.negSucc _) => complain (.badGroupName name) (name.length + 1)
  | some (.ofNat n) =>
    if n = 0 then complain .badGroupNumber (name.length + 1)
    let at_ := (← offset) - name.length - 1
    modify fun s => if (s.references.lookup n).isSome then s
      else { s with references := s.references ++ [(n, at_)] }
    return n

def close (start : Nat) : Reader Unit := do
  if !(← accept ')') then complain .unterminatedGroup ((← offset) - start)

def comment (start : Nat) : (fuel : Nat) → Reader Unit
  | 0 => return
  | fuel + 1 => do
    if (← peek).isNone then complain .unterminatedComment ((← offset) - start)
    if (← next) ≠ some ")" then comment start fuel

def restOfLine : (fuel : Nat) → Reader Unit
  | 0 => return
  | fuel + 1 => do
    match ← next with
    | none => return
    | some t => if t ≠ "\n" then restOfLine fuel

def namedReference : Reader Node := do
  let n ← name ')' "group name"
  if !isIdentifier n then complain (.badGroupName n) (n.length + 1)
  match (← get).names.lookup n with
  | none => complain (.unknownGroup n) (n.length + 1)
  | some group =>
    if !(← isClosed group) then complain .openGroup (n.length + 1)
    checkLookbehind group
    return .backreference group

mutual

/-- Alternatives, up to a closing parenthesis or the end. At the outermost level the verbose flag
may be set by the pattern itself. -/
def alternatives : (fuel : Nat) → (outer verbose first : Bool) → Reader (List Node)
  | 0, _, _, _ => complain .unexpectedEnd 0
  | fuel + 1, outer, verbose, first => do
    let nodes ← sequence fuel verbose (outer && first) []
    if ← accept '|' then
      let global := (← get).flags.verbose
      let verbose := if outer then global else verbose
      match ← alternatives fuel outer verbose false with
      | [.branch others] => return [.branch (nodes :: others)]
      | other => return [.branch [nodes, other]]
    else if first then return nodes
    else return [.branch [nodes]]

/-- A sequence of which `done` (in reverse) is read, up to a bar, a closing parenthesis or the
end. -/
def sequence : (fuel : Nat) → (verbose first : Bool) → (done : List Node) → Reader (List Node)
  | 0, _, _, _ => complain .unexpectedEnd 0
  | fuel + 1, verbose, first, done => do
    let start ← offset
    match ← peek with
    | none => return done.reverse
    | some this =>
      if this = "|" || this = ")" then return done.reverse
      advance
      match this with
      | [_, c] => sequence fuel verbose first ((← outerEscape c) :: done)
      | [] => return done.reverse
      | c :: _ =>
        if verbose && (c.val = 0x20 || (0x9 ≤ c.val && c.val ≤ 0xd)) then
          sequence fuel verbose first done
        else if verbose && c = '#' then
          restOfLine (← get).rest.length
          sequence fuel verbose first done
        else if c = '[' then sequence fuel verbose first ((← bracket start) :: done)
        else if c = '.' then sequence fuel verbose first (.any :: done)
        else if c = '^' then sequence fuel verbose first (.anchor .lineStart :: done)
        else if c = '$' then sequence fuel verbose first (.anchor .lineEnd :: done)
        else if c = '?' then
          sequence fuel verbose first (← repeatLast (← offset) 0 (some 1) done)
        else if c = '*' then
          sequence fuel verbose first (← repeatLast (← offset) 0 none done)
        else if c = '+' then
          sequence fuel verbose first (← repeatLast (← offset) 1 none done)
        else if c = '\x7b' then
          let behind ← offset
          match ← bounds? with
          | none => sequence fuel verbose first (.literal c :: done)
          | some (least, most) =>
            sequence fuel verbose first (← repeatLast behind least most done)
        else if c = '(' then
          if ← accept '?' then
            match ← extension fuel verbose (first && done.isEmpty) start with
            | (some node, _) => sequence fuel verbose first (node :: done)
            | (none, v) => sequence fuel v first done
          else
            let node ← group fuel verbose start none
            sequence fuel verbose first (node :: done)
        else sequence fuel verbose first (.literal c :: done)

def group : (fuel : Nat) → (verbose : Bool) → (start : Nat) → (name : Option Text) → Reader Node
  | 0, _, _, _ => complain .unexpectedEnd 0
  | fuel + 1, verbose, start, name => do
    let index ← openGroup name
    let body ← alternatives fuel false verbose true
    close start
    closeGroup index body
    return .group (some index) {} {} body

/-- What follows an opening parenthesis, at `start`, and a question mark: a node, or none for what
stands for nothing; and whether what follows is verbose. -/
def extension : (fuel : Nat) → (verbose atStart : Bool) → (start : Nat) →
    Reader (Option Node × Bool)
  | 0, _, _, _ => complain .unexpectedEnd 0
  | fuel + 1, verbose, atStart, start => do
    match ← next with
    | none => complain .unexpectedEnd 0
    | some this =>
      if this = "P" then
        if ← accept '<' then
          let n ← name '>' "group name"
          if !isIdentifier n then complain (.badGroupName n) (n.length + 1)
          return (some (← group fuel verbose start (some n)), verbose)
        else if ← accept '=' then return (some (← namedReference), verbose)
        else match ← next with
        | none => complain .unexpectedEnd 0
        | some t => complain (.unknownExtension ("P" ++ t)) (t.length + 2)
      else if this = ":" then
        let body ← alternatives fuel false verbose true
        close start
        return (some (.group none {} {} body), verbose)
      else if this = "#" then
        comment start ((← get).rest.length + 1)
        return (none, verbose)
      else if this = "=" || this = "!" then
        let body ← alternatives fuel false verbose true
        close start
        return (some (.look false (this = "!") body), verbose)
      else if this = "<" then
        match ← next with
        | none => complain .unexpectedEnd 0
        | some t =>
          if t ≠ "=" && t ≠ "!" then complain (.unknownExtension ("<" ++ t)) (t.length + 2)
          let outerGroups := (← get).lookbehindGroups
          if outerGroups.isNone then
            let count ← groupCount
            modify fun s => { s with lookbehindGroups := some count }
          let body ← alternatives fuel false verbose true
          if outerGroups.isNone then modify fun s => { s with lookbehindGroups := none }
          close start
          return (some (.look true (t = "!") body), verbose)
      else if this = "(" then
        let index ← conditionGroup (← name ')' "group name")
        checkLookbehind index
        let yes ← sequence fuel verbose false []
        let no ← if ← accept '|' then
            let no ← sequence fuel verbose false []
            if (← peek) = some "|" then complain .threeBranches 0
            pure no
          else pure []
        close start
        return (some (.conditional index yes no), verbose)
      else if this = ">" then
        let body ← alternatives fuel false verbose true
        close start
        return (some (.atomic body), verbose)
      else if (flag? this).isSome || this = "L" || this = "-" then
        match ← groupFlags this with
        | none =>
          if !atStart then complain .flagsNotAtStart ((← offset) - start)
          return (none, (← get).flags.verbose)
        | some (on, off) =>
          let body ← alternatives fuel false ((verbose || on.verbose) && !off.verbose) true
          close start
          return (some (.group none on off body), verbose)
      else complain (.unknownExtension this) (this.length + 1)

end

mutual

def Node.lookbehindFault (groups : Nat → Width) : Node → Option Reason
  | .repetition _ _ _ body => sequenceLookbehindFault groups body
  | .group _ _ _ body => sequenceLookbehindFault groups body
  | .branch alternatives => branchLookbehindFault groups alternatives
  | .look behind _ body =>
    let w := sequenceWidth groups body
    if behind && countLimit < w.1 then some .lookbehindTooLong
    else if behind && w.1 ≠ w.2 then some .lookbehindNotFixed
    else sequenceLookbehindFault groups body
  | .conditional _ yes no =>
    (sequenceLookbehindFault groups yes).or (sequenceLookbehindFault groups no)
  | .atomic body => sequenceLookbehindFault groups body
  | _ => none

def sequenceLookbehindFault (groups : Nat → Width) : List Node → Option Reason
  | [] => none
  | n :: ns => (n.lookbehindFault groups).or (sequenceLookbehindFault groups ns)

def branchLookbehindFault (groups : Nat → Width) : List (List Node) → Option Reason
  | [] => none
  | b :: bs => (sequenceLookbehindFault groups b).or (branchLookbehindFault groups bs)

end

/-- A pattern that is read: its tree, its flags, the widths of its groups and their names. -/
structure Compiled where
  body : List Node
  flags : Flags
  groups : List Width
  names : List (Text × Nat)

def groupWidth (groups : List Width) (n : Nat) : Width :=
  (groups[n - 1]?).getD (0, 0)

def Flags.refusal? (f : Flags) : Option Reason :=
  if f.locale then some .localeRefused
  else if f.ascii && f.unicode then some .repertoiresRefused
  else none

def compile (flags : Flags) (pattern : Text) : Except Complaint Compiled := do
  let (rest, dangling) := tokens 0 pattern
  if rest.isEmpty && dangling then throw ⟨.danglingBackslash, some 0⟩
  let fuel := 4 * rest.length + 8
  let (body, s) ← (alternatives fuel true flags.verbose true).run
    { rest := rest, stop := pattern.length, dangling := dangling, flags := flags }
  if let some reason := s.flags.refusal? then throw ⟨reason, none⟩
  match s.rest with
  | t :: _ => throw ⟨.unbalanced, some t.offset⟩
  | [] =>
    let groups := s.groups.map (·.getD (0, 0))
    match s.references.find? fun r => groups.length < r.1 with
    | some (n, at_) => throw ⟨.unknownReference n, some at_⟩
    | none =>
      match sequenceLookbehindFault (groupWidth groups) body with
      | some reason => throw ⟨reason, none⟩
      | none => return { body := body, flags := s.flags, groups := groups, names := s.names }

end WebLint.Pattern
