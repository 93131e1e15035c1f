import WebLint.Proofs.Json.Scalars
import WebLint.Proofs.Json.Strings

namespace WebLint.Json

/-- What a list or an object holds when its next element or member is read. -/
inductive Inside
  | list (done : List Value)
  | object (done : List Field)

namespace Inside

def close : Inside → Code
  | list _ => ']'
  | object _ => '\x7d'

def value : Inside → Value
  | list done => .list done.reverse
  | object done => .object done

/-- One more value. The elements of a list have no key. -/
def add (key : Text) (v : Value) : Inside → Inside
  | list done => list (v :: done)
  | object done => object (putField done key v)

def read (fuel : Nat) : Inside → Text → Read Value
  | list done => elements fuel done
  | object done => members fuel done

end Inside

def opened (fuel : Nat) (i : Inside) (t : Text) : Read Value :=
  match skipSpace t with
  | [] => i.read fuel []
  | c :: r => if c = i.close then .ok (i.value, r) else i.read fuel (c :: r)

/-- What is read from an element on, or from the value of a member on. -/
def item (fuel : Nat) (i : Inside) (key t : Text) : Read Value :=
  match value fuel t with
  | .error e => .error e
  | .ok (v, rest) =>
    match skipSpace rest with
    | [] => .error (.malformed .expectingComma [])
    | c :: r =>
      if c = i.close then .ok ((i.add key v).value, r)
      else if c = ',' then (i.add key v).read fuel (skipSpace r)
      else .error (.malformed .expectingComma (c :: r))

/-! ### White space -/

def Blanks (t : Text) : Prop :=
  ∀ c ∈ t, isSpace c = true

def NoSpace (t : Text) : Prop :=
  ∀ c ∈ t.head?, isSpace c = false

theorem skipSpace_append {sp t : Text} (hsp : Blanks sp) (ht : NoSpace t) :
    skipSpace (sp ++ t) = t := by
  rw [skipSpace, List.dropWhile_append_of_pos hsp]
  cases t with
  | nil => rfl
  | cons c t => simp [ht c rfl]

theorem noSpace_skipSpace (t : Text) : NoSpace (skipSpace t) := by
  intro c hc
  have := List.head?_dropWhile_not isSpace t
  rw [← skipSpace, Option.mem_def.mp hc] at this
  simpa using this

theorem exists_blanks (t : Text) : ∃ sp, Blanks sp ∧ t = sp ++ skipSpace t :=
  ⟨t.takeWhile isSpace, fun _ hc => List.mem_takeWhile_imp hc,
    List.takeWhile_append_dropWhile.symm⟩

theorem NoSpace.of_append {c t : Text} (h : NoSpace (c ++ t)) : NoSpace c := by
  cases c with
  | nil => simp [NoSpace]
  | cons d c => exact h

theorem NoSpace.append {c : Text} (h : NoSpace c) (hc : c ≠ []) (t : Text) : NoSpace (c ++ t) := by
  obtain ⟨d, c, rfl⟩ := List.exists_cons_of_ne_nil hc
  exact h

theorem Blanks.ends {sp u : Text} {d : Code} (hsp : Blanks sp) (hd : Ends [d]) :
    Ends (sp ++ d :: u) := by
  cases sp with
  | nil => exact hd
  | cons c sp =>
    intro c' hc'
    cases hc'
    have hspace : isSpace c = true := hsp c List.mem_cons_self
    refine ⟨?_, ?_, ?_, ?_⟩
    · simp only [isSpace, Bool.or_eq_true, beq_iff_eq] at hspace
      simp only [Code.isAsciiDigit, Bool.and_eq_false_iff, decide_eq_false_iff_not]
      omega
    all_goals
      rintro rfl
      cases hspace

theorem Inside.close_eq (i : Inside) : i.close = ']' ∨ i.close = '\x7d' := by
  cases i with
  | list => exact .inl rfl
  | object => exact .inr rfl

theorem Inside.ends_close (i : Inside) : Ends [i.close] := by
  intro c hc
  cases hc
  rcases i.close_eq with h | h <;> rw [h] <;> decide

theorem Inside.noSpace_close (i : Inside) (t : Text) : NoSpace (i.close :: t) := by
  intro c hc
  cases hc
  rcases i.close_eq with h | h <;> rw [h] <;> decide

theorem Inside.close_ne_comma (i : Inside) : i.close ≠ ',' := by
  rcases i.close_eq with h | h <;> rw [h] <;> decide

theorem ends_comma : Ends [(',' : Code)] := by
  intro c hc
  cases hc
  decide

theorem noSpace_comma (t : Text) : NoSpace ((',' : Code) :: t) := by
  intro c hc
  cases hc
  decide

/-! ### One step of reading -/

variable {fuel : Nat} {i : Inside} {key t : Text} {v : Value}

inductive Opens : Code → Inside → Prop
  | list : Opens '[' (.list [])
  | object : Opens '\x7b' (.object [])

/-- What stands in front of a value: nothing in a list, a key and its colon in an object. -/
inductive Head : Inside → Text → Text → Prop
  | list (done : List Value) : Head (.list done) [] []
  | object (done : List Field) {c key sp sp' : Text} (hc : Spells c key) (hsp : Blanks sp)
    (hsp' : Blanks sp') : Head (.object done) ('"' :: (c ++ (sp ++ (':' : Code) :: sp'))) key

/-- What can come of a value. -/
inductive ValueReads (fuel : Nat) : Text → Read Value → Prop
  | missing : ValueReads fuel [] (.error (.malformed .expectingValue []))
  | broken {t rest : Text} {why : Complaint} (h : why ≠ .expectingValue) :
    ValueReads fuel t (.error (.malformed why rest))
  | text {c s r : Text} (h : Spells c s) : ValueReads fuel ('"' :: (c ++ r)) (.ok (.text s, r))
  | opened {c : Code} {i : Inside} {t : Text} (h : Opens c i) :
    ValueReads fuel (c :: t) (opened fuel i t)
  | scalar {c : Code} {t : Text} (hquote : c ≠ '"') (hopens : ∀ i, ¬ Opens c i) :
    ValueReads fuel (c :: t) (scalar (c :: t))

/-- What can come of the text behind an opening bracket. -/
inductive OpenedReads (fuel : Nat) (i : Inside) : Text → Read Value → Prop
  | empty {sp r : Text} (hsp : Blanks sp) :
    OpenedReads fuel i (sp ++ i.close :: r) (.ok (i.value, r))
  | filled {sp w : Text} (hsp : Blanks sp) (hw : NoSpace w) (hclose : w.head? ≠ some i.close) :
    OpenedReads fuel i (sp ++ w) (i.read fuel w)

/-- What can come of an element, or of a member with its key. -/
inductive InsideReads (fuel : Nat) (i : Inside) : Text → Read Value → Prop
  | broken {t rest : Text} {why : Complaint} (h : why ≠ .expectingValue) :
    InsideReads fuel i t (.error (.malformed why rest))
  | item {h key w : Text} (hhead : Head i h key) (hw : NoSpace w) :
    InsideReads fuel i (h ++ w) (item fuel i key w)

/-- What can come of an element, or of the value of a member. -/
inductive ItemReads (fuel : Nat) (i : Inside) (key t : Text) : Read Value → Prop
  | failed {e : Failure} (h : value fuel t = .error e) : ItemReads fuel i key t (.error e)
  | broken {rest : Text} : ItemReads fuel i key t (.error (.malformed .expectingComma rest))
  | last {v : Value} {sp r : Text} (h : value fuel t = .ok (v, sp ++ i.close :: r))
    (hsp : Blanks sp) : ItemReads fuel i key t (.ok ((i.add key v).value, r))
  | more {v : Value} {sp sp' w : Text}
    (h : value fuel t = .ok (v, sp ++ (',' : Code) :: (sp' ++ w))) (hsp : Blanks sp)
    (hsp' : Blanks sp') (hw : NoSpace w) : ItemReads fuel i key t ((i.add key v).read fuel w)

theorem read_zero (i : Inside) (t : Text) : ∃ e, i.read 0 t = .error e := by
  cases i with
  | list done => exact ⟨_, by rw [Inside.read, elements]⟩
  | object done => exact ⟨_, by rw [Inside.read, members]⟩

theorem value_quote (fuel : Nat) {c s : Text} (h : Spells c s) (u : Text) :
    value (fuel + 1) ('"' :: (c ++ u)) = .ok (.text s, u) := by
  rw [value, if_pos rfl, h.stringBody_append]

theorem value_opened {c : Code} (h : Opens c i) (fuel : Nat) (t : Text) :
    value (fuel + 1) (c :: t) = opened fuel i t := by
  cases h with
  | list =>
    rw [value, if_neg (by decide), if_pos rfl]
    rfl
  | object =>
    rw [value, if_neg (by decide), if_neg (by decide), if_pos rfl]
    rfl

theorem value_scalar {c : Code} (hquote : c ≠ '"') (hopens : ∀ i, ¬ Opens c i) (fuel : Nat)
    (t : Text) : value (fuel + 1) (c :: t) = scalar (c :: t) := by
  rw [value, if_neg hquote, if_neg, if_neg]
  · rintro rfl
    exact hopens _ .object
  · rintro rfl
    exact hopens _ .list

theorem value_reads (fuel : Nat) (t : Text) : ValueReads fuel t (value (fuel + 1) t) := by
  cases t with
  | nil =>
    rw [value]
    exact .missing
  | cons c t =>
    by_cases hquote : c = '"'
    · subst hquote
      rw [value, if_pos rfl]
      cases hbody : stringBody (Code.ofChar '"' :: t) t with
      | ok p =>
        obtain ⟨d, hd, rfl⟩ := stringBody_eq_ok_iff.mp hbody
        exact .text hd
      | error e =>
        obtain ⟨why, rest, rfl, hwhy⟩ := stringBody_error hbody
        exact .broken hwhy
    · by_cases hopens : ∃ i, Opens c i
      · obtain ⟨i, hi⟩ := hopens
        rw [value_opened hi]
        exact .opened hi
      · rw [value_scalar hquote (not_exists.mp hopens)]
        exact .scalar hquote (not_exists.mp hopens)

theorem opened_empty (fuel : Nat) {sp : Text} (hsp : Blanks sp) (u : Text) :
    opened fuel i (sp ++ i.close :: u) = .ok (i.value, u) := by
  rw [opened, skipSpace_append hsp (i.noSpace_close u)]
  exact if_pos rfl

theorem opened_filled (fuel : Nat) {sp w : Text} (hsp : Blanks sp) (hw : NoSpace w)
    (hclose : w.head? ≠ some i.close) : opened fuel i (sp ++ w) = i.read fuel w := by
  rw [opened, skipSpace_append hsp hw]
  cases w with
  | nil => rfl
  | cons c w => exact if_neg fun h => hclose (congrArg some h)

theorem opened_reads (fuel : Nat) (i : Inside) (t : Text) :
    OpenedReads fuel i t (opened fuel i t) := by
  obtain ⟨sp, hsp, ht⟩ := exists_blanks t
  have hw := noSpace_skipSpace t
  generalize skipSpace t = w at ht hw
  subst ht
  by_cases hclose : w.head? = some i.close
  · obtain ⟨r, rfl⟩ := List.head?_eq_some_iff.mp hclose
    rw [opened_empty fuel hsp]
    exact .empty hsp
  · rw [opened_filled fuel hsp hw hclose]
    exact .filled hsp hw hclose

theorem read_head {h w : Text} (hhead : Head i h key) (hw : NoSpace w) (fuel : Nat) :
    i.read (fuel + 1) (h ++ w) = item fuel i key w := by
  cases hhead with
  | list done =>
    rw [Inside.read, elements.eq_def]
    rfl
  | @object done c _ sp sp' hc hsp hsp' =>
    have hcolon : NoSpace (Code.ofChar ':' :: (sp' ++ w)) := by
      intro c hc
      cases hc
      rfl
    simp only [Inside.read, List.cons_append, List.append_assoc]
    rw [members, if_pos rfl, hc.stringBody_append]
    dsimp only
    rw [skipSpace_append hsp hcolon]
    dsimp only
    rw [if_pos rfl, skipSpace_append hsp' hw]
    rfl

theorem read_reads (fuel : Nat) (i : Inside) {t : Text} (ht : NoSpace t) :
    InsideReads fuel i t (i.read (fuel + 1) t) := by
  cases i with
  | list done =>
    have hhead := Head.list done
    rw [← List.nil_append t, read_head hhead ht]
    exact .item hhead ht
  | object done =>
    cases t with
    | nil =>
      rw [Inside.read, members]
      exact .broken (by decide)
    | cons q t =>
      by_cases hq : q = '"'
      · subst hq
        cases hbody : stringBody (Code.ofChar '"' :: t) t with
        | error e =>
          obtain ⟨why, rest, rfl, hwhy⟩ := stringBody_error hbody
          rw [Inside.read, members, if_pos rfl, hbody]
          exact .broken hwhy
        | ok p =>
          obtain ⟨c, hc, rfl⟩ := stringBody_eq_ok_iff.mp hbody
          obtain ⟨sp, hsp, hp⟩ := exists_blanks p.2
          cases hskip : skipSpace p.2 with
          | nil =>
            rw [Inside.read, members, if_pos rfl, hbody]
            dsimp only
            rw [hskip]
            exact .broken (by decide)
          | cons d r =>
            by_cases hd : d = ':'
            · subst hd
              obtain ⟨sp', hsp', hr⟩ := exists_blanks r
              have hhead := Head.object done hc hsp hsp'
              have ht : Code.ofChar '"' :: (c ++ p.2) =
                  Code.ofChar '"' :: (c ++ (sp ++ Code.ofChar ':' :: sp')) ++ skipSpace r := by
                rw [List.cons_append, List.append_assoc, List.append_assoc, List.cons_append, ← hr,
                  ← hskip, ← hp]
              rw [ht, read_head hhead (noSpace_skipSpace r)]
              exact .item hhead (noSpace_skipSpace r)
            · rw [Inside.read, members, if_pos rfl, hbody]
              dsimp only
              rw [hskip]
              dsimp only
              rw [if_neg hd]
              exact .broken (by decide)
      · rw [Inside.read, members, if_neg hq]
        exact .broken (by decide)

theorem item_reads (fuel : Nat) (i : Inside) (key t : Text) :
    ItemReads fuel i key t (item fuel i key t) := by
  rw [item]
  cases hv : value fuel t with
  | error e => exact .failed hv
  | ok p =>
    obtain ⟨v, rest⟩ := p
    obtain ⟨sp, hsp, hrest⟩ := exists_blanks rest
    dsimp only
    cases hskip : skipSpace rest with
    | nil => exact .broken
    | cons c r =>
      dsimp only
      rw [hrest, hskip] at hv
      split
      · next hclose =>
        subst hclose
        exact .last hv hsp
      · split
        · next hcomma =>
          subst hcomma
          obtain ⟨sp', hsp', hr⟩ := exists_blanks r
          rw [hr] at hv
          exact .more hv hsp hsp' (noSpace_skipSpace r)
        · exact .broken

end WebLint.Json
