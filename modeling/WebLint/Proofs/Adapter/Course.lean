import WebLint.Proofs.Adapter

namespace WebLint

/-- A value that can be no path, with what is wrong with it. -/
inductive Entry.Refuses : Value → List Problem → Prop
  | notText {path : Value} (h : ∀ t, path ≠ .text t) :
    Refuses path [⟨[.field "resource_path"], .notText⟩]
  | blank {t : Text} (h : t.isBlank = true) :
    Refuses (.text t) [⟨[.field "resource_path"], .blankPath⟩]

/-- The fault that comes of one whose wording shows a value. A value that holds an integer of too
many digits cannot be shown; no text is of that kind. -/
inductive Fault.Quoted (v : Value) (f : Fault) : Fault → Prop
  | shown (h : v.exceedsDigitLimit = false) : Quoted v f f
  | unshown (h : v.exceedsDigitLimit = true) : Quoted v f .integerTooLong

theorem Fault.quoted_iff {v : Value} {f f' : Fault} : Quoted v f f' ↔ quoting v f = f' := by
  unfold quoting
  split
  · next hlong =>
    constructor
    · intro h
      cases h with
      | shown h => rw [h] at hlong; cases hlong
      | unshown => rfl
    · rintro rfl
      exact .unshown hlong
  · next hlong =>
    constructor
    · intro h
      cases h with
      | shown => rfl
      | unshown h => exact absurd h hlong
    · rintro rfl
      exact .shown (eq_false_of_ne_true hlong)

theorem Entry.text_or_refuses (path : Value) :
    (∃ t : Text, path = .text t ∧ t.isBlank = false) ∨ ∃ ps, Refuses path ps := by
  by_cases htext : ∃ t, path = .text t
  · obtain ⟨t, rfl⟩ := htext
    cases hblank : t.isBlank with
    | false => exact .inl ⟨t, rfl, hblank⟩
    | true => exact .inr ⟨_, .blank hblank⟩
  · exact .inr ⟨_, .notText fun t h => htext ⟨t, h⟩⟩

theorem Entry.make_of_refuses {path : Value} {ps : List Problem} (h : Refuses path ps)
    (items : List Item) : make path items = .problems ps := by
  have hrule : (pathRule path).under (.field "resource_path") = .problems ps := by
    cases h with
    | notText h =>
      unfold pathRule
      split
      · exact absurd rfl (h _)
      · rfl
    | blank h =>
      rw [pathRule, if_pos h]
      rfl
  rw [make, hrule]
  rfl

namespace Adapter

variable {σ ρ : Type} {a : Adapter σ ρ}

theorem makeEntry_of_refuses {path : Value} {ps : List Problem} (h : Entry.Refuses path ps)
    {f : Fault} (hf : Fault.Quoted path (.pathInvalid path ps) f) (items : List Item) :
    makeEntry path items = .error f := by
  rw [makeEntry, Entry.make_of_refuses h, ← Fault.quoted_iff.mp hf]

inductive Adapts (a : Adapter σ ρ) : σ → List ρ → List Item → σ → Prop
  | nil {m : σ} : Adapts a m [] [] m
  | cons {m m₁ m' : σ} {r : ρ} {rs : List ρ} {item : Item} {items : List Item}
    (h : a.adapt r m = (.ok item, m₁)) (hrs : Adapts a m₁ rs items m') :
    Adapts a m (r :: rs) (item :: items) m'

/-- Groups that are completed one after the other: all records are adapted, and the path is taken. -/
inductive Completes (a : Adapter σ ρ) :
    σ → List (Value × List ρ) → List Entry → σ → Prop
  | nil {m : σ} : Completes a m [] [] m
  | cons {m m₁ m' : σ} {path : Text} {rs : List ρ} {items : List Item}
    {gs : List (Value × List ρ)} {es : List Entry} (hrs : a.Adapts m rs items m₁)
    (hpath : path.isBlank = false) (hgs : Completes a m₁ gs es m') :
    Completes a m ((.text path, rs) :: gs) (⟨path, items⟩ :: es) m'

def allRecords (gs : List (Value × List ρ)) : List ρ :=
  gs.flatMap (·.2)

def lines (a : Adapter σ ρ) (es : List Entry) : List Event :=
  es.map fun e => .adapted e.items.length a.tool e.path

/-- The course of an adaptation: how it ends, the memory that is left, the records on which the
adapter is called, and the log. -/
inductive Course (a : Adapter σ ρ) (m : σ) :
    List (Value × List ρ) → Except Fault Report → σ → List ρ → List Event → Prop
  | finished {gs : List (Value × List ρ)} {es : List Entry} {m' : σ}
    (h : a.Completes m gs es m') : Course a m gs (.ok ⟨es⟩) m' (allRecords gs) (a.lines es)
  | recordFails {gs : List (Value × List ρ)} {es : List Entry} {path : Value} {rs : List ρ}
    {items : List Item} {r : ρ} {m₁ m₂ m' : σ} {f f' : Fault} (h : a.Completes m gs es m₁)
    (hrs : a.Adapts m₁ rs items m₂) (hr : a.adapt r m₂ = (.error f, m'))
    (hf : Fault.Quoted path (.adaptation path rs.length f) f') (rest : List ρ)
    (more : List (Value × List ρ)) :
    Course a m (gs ++ (path, rs ++ r :: rest) :: more) (.error f') m'
      (allRecords gs ++ (rs ++ [r])) (a.lines es)
  | pathRefused {gs : List (Value × List ρ)} {es : List Entry} {path : Value} {rs : List ρ}
    {items : List Item} {m₁ m' : σ} {ps : List Problem} {f : Fault} (h : a.Completes m gs es m₁)
    (hrs : a.Adapts m₁ rs items m') (hpath : Entry.Refuses path ps)
    (hf : Fault.Quoted path (.pathInvalid path ps) f) (more : List (Value × List ρ)) :
    Course a m (gs ++ (path, rs) :: more) (.error f) m' (allRecords gs ++ rs) (a.lines es)

/-! ### Records -/

theorem adaptRecords_of_adapts {m m' : σ} {rs : List ρ} {items : List Item}
    (h : a.Adapts m rs items m') (path : Value) (k : Nat) :
    a.adaptRecords path k rs m = ⟨.ok items, m', []⟩ := by
  induction h generalizing k with
  | nil => rfl
  | cons h _ ih =>
    have hstep := Act.mapFault_of_ok (g := fun f => .quoting path (.adaptation path k f))
      (Act.ofStep_of_eq h)
    rw [adaptRecords, Act.bind_of_ok hstep, Act.bind_of_ok (ih (k + 1))]
    rfl

theorem adaptRecords_of_fails {m m₁ m' : σ} {rs : List ρ} {items : List Item} {r : ρ} {f : Fault}
    (h : a.Adapts m rs items m₁) (hr : a.adapt r m₁ = (.error f, m')) (path : Value) (k : Nat)
    (rest : List ρ) :
    a.adaptRecords path k (rs ++ r :: rest) m =
      ⟨.error (.quoting path (.adaptation path (k + rs.length) f)), m', []⟩ := by
  induction h generalizing k with
  | nil =>
    have hstep := Act.mapFault_of_error (g := fun f => .quoting path (.adaptation path k f))
      (Act.ofStep_of_eq hr)
    rw [List.nil_append, adaptRecords, Act.bind_of_error hstep]
    rfl
  | @cons _ _ _ _ rs _ _ h _ ih =>
    have hstep := Act.mapFault_of_ok (g := fun f => .quoting path (.adaptation path k f))
      (Act.ofStep_of_eq h)
    have hk : k + 1 + rs.length = k + (rs.length + 1) := by omega
    rw [List.cons_append, adaptRecords, Act.bind_of_ok hstep, Act.bind_of_error (ih hr (k + 1)),
      List.length_cons, hk]
    rfl

theorem adapts_or_fails (a : Adapter σ ρ) (rs : List ρ) (m : σ) :
    (∃ items m', a.Adapts m rs items m') ∨
      ∃ before r rest items m₁ f m', rs = before ++ r :: rest ∧ a.Adapts m before items m₁ ∧
        a.adapt r m₁ = (.error f, m') := by
  induction rs generalizing m with
  | nil => exact .inl ⟨[], m, .nil⟩
  | cons r rs ih =>
    cases hr : a.adapt r m with
    | mk result m₁ =>
      cases result with
      | error f => exact .inr ⟨[], r, rs, [], m, f, m₁, rfl, .nil, hr⟩
      | ok item =>
        obtain ⟨items, m', hrs⟩ | ⟨before, r', rest, items, m₂, f, m', rfl, hbefore, hr'⟩ := ih m₁
        · exact .inl ⟨_, m', .cons hr hrs⟩
        · exact .inr ⟨r :: before, r', rest, _, m₂, f, m', rfl, .cons hr hbefore, hr'⟩

/-! ### Groups -/

theorem adaptGroups_of_completes {m m₁ : σ} {gs : List (Value × List ρ)} {es : List Entry}
    (h : a.Completes m gs es m₁) (before : Report) (more : List (Value × List ρ)) :
    a.adaptGroups before (gs ++ more) m =
      ⟨(a.adaptGroups ⟨before.entries ++ es⟩ more m₁).result,
        (a.adaptGroups ⟨before.entries ++ es⟩ more m₁).memory,
        a.lines es ++ (a.adaptGroups ⟨before.entries ++ es⟩ more m₁).log⟩ := by
  induction h generalizing before with
  | nil => rw [List.append_nil]; rfl
  | @cons m m₁ _ path rs items gs es hrs hpath _ ih =>
    have hmake : makeEntry (.text path) items = .ok ⟨path, items⟩ :=
      makeEntry_eq_ok_iff.mpr ⟨rfl, hpath, rfl⟩
    have hpush : (before.push ⟨path, items⟩).entries ++ es =
        before.entries ++ ⟨path, items⟩ :: es := by
      rw [Report.push, List.append_assoc, List.singleton_append]
    rw [List.cons_append, adaptGroups, Act.bind_of_ok (adaptRecords_of_adapts hrs _ 0),
      Act.ofResult_bind_of_ok hmake, Act.note_bind, ih, hpush]
    rfl

theorem report_of_course {m m' : σ} {gs : List (Value × List ρ)} {result : Except Fault Report}
    {calls : List ρ} {log : List Event} (h : Course a m gs result m' calls log) :
    report (some gs) (some a) m = ⟨result, m', log⟩ := by
  rw [report]
  cases h with
  | finished h =>
    have hgroups := adaptGroups_of_completes h .empty []
    rw [List.append_nil] at hgroups
    rw [hgroups, adaptGroups]
    simp [pure, Act.done, Report.empty]
  | @recordFails _ _ path _ _ _ _ _ _ _ _ h hrs hr hf rest more =>
    have hrecords := adaptRecords_of_fails hrs hr path 0 rest
    rw [Nat.zero_add, Fault.quoted_iff.mp hf] at hrecords
    rw [adaptGroups_of_completes h, adaptGroups, Act.bind_of_error hrecords, List.append_nil]
  | @pathRefused _ _ path _ items _ _ _ f h hrs hpath hf more =>
    rw [adaptGroups_of_completes h, adaptGroups, Act.bind_of_ok (adaptRecords_of_adapts hrs _ 0),
      Act.ofResult_bind_of_error (makeEntry_of_refuses hpath hf _), List.append_nil,
      List.append_nil]

theorem completes_or_fails (a : Adapter σ ρ) (gs : List (Value × List ρ)) (m : σ) :
    (∃ es m', a.Completes m gs es m') ∨
      ∃ before path rs more es m₁, gs = before ++ (path, rs) :: more ∧
        a.Completes m before es m₁ ∧
        ((∃ done r rest items m₂ f m', rs = done ++ r :: rest ∧ a.Adapts m₁ done items m₂ ∧
            a.adapt r m₂ = (.error f, m')) ∨
          ∃ items m' ps, a.Adapts m₁ rs items m' ∧ Entry.Refuses path ps) := by
  induction gs generalizing m with
  | nil => exact .inl ⟨[], m, .nil⟩
  | cons g gs ih =>
    obtain ⟨path, rs⟩ := g
    obtain ⟨items, m₁, hrs⟩ | hfails := a.adapts_or_fails rs m
    · obtain ⟨path, rfl, hpath⟩ | ⟨ps, hpath⟩ := Entry.text_or_refuses path
      · obtain ⟨es, m', hgs⟩ | ⟨before, path', rs', more, es, m₂, rfl, hgs, hfails⟩ := ih m₁
        · exact .inl ⟨_, m', .cons hrs hpath hgs⟩
        · exact .inr ⟨_ :: before, path', rs', more, _, m₂, rfl, .cons hrs hpath hgs, hfails⟩
      · exact .inr ⟨[], path, rs, gs, [], m, rfl, .nil, .inr ⟨items, m₁, ps, hrs, hpath⟩⟩
    · exact .inr ⟨[], path, rs, gs, [], m, rfl, .nil, .inl hfails⟩

theorem exists_course (a : Adapter σ ρ) (gs : List (Value × List ρ)) (m : σ) :
    ∃ result m' calls log, Course a m gs result m' calls log := by
  obtain ⟨es, m', h⟩ | ⟨gs, path, rs, more, es, m₁, rfl, h, hfails⟩ := a.completes_or_fails gs m
  · exact ⟨_, _, _, _, .finished h⟩
  · obtain ⟨done, r, rest, items, m₂, f, m', rfl, hrs, hr⟩ | ⟨items, m', ps, hrs, hpath⟩ := hfails
    · exact ⟨_, _, _, _, .recordFails h hrs hr (Fault.quoted_iff.mpr rfl) rest more⟩
    · exact ⟨_, _, _, _, .pathRefused h hrs hpath (Fault.quoted_iff.mpr rfl) more⟩

/-! ### Calls -/

def watched (a : Adapter σ ρ) : Adapter (σ × List ρ) ρ where
  tool := a.tool
  adapt r s := ((a.adapt r s.1).1, ((a.adapt r s.1).2, s.2 ++ [r]))

theorem adapt_watched {m m' : σ} {r : ρ} {result : Except Fault Item}
    (h : a.adapt r m = (result, m')) (rs : List ρ) :
    a.watched.adapt r (m, rs) = (result, (m', rs ++ [r])) := by
  simp only [watched, h]

theorem Adapts.watched {m m' : σ} {rs : List ρ} {items : List Item} (h : a.Adapts m rs items m')
    (seen : List ρ) : a.watched.Adapts (m, seen) rs items (m', seen ++ rs) := by
  induction h generalizing seen with
  | nil => rw [List.append_nil]; exact .nil
  | @cons _ _ _ r rs _ _ h _ ih =>
    have hrs := ih (seen ++ [r])
    rw [List.append_assoc, List.singleton_append] at hrs
    exact .cons (adapt_watched h seen) hrs

theorem Completes.watched {m m' : σ} {gs : List (Value × List ρ)} {es : List Entry}
    (h : a.Completes m gs es m') (seen : List ρ) :
    a.watched.Completes (m, seen) gs es (m', seen ++ allRecords gs) := by
  induction h generalizing seen with
  | nil => rw [allRecords, List.flatMap_nil, List.append_nil]; exact .nil
  | @cons _ _ _ _ rs _ _ _ hrs hpath _ ih =>
    have hgs := ih (seen ++ rs)
    rw [List.append_assoc] at hgs
    exact .cons (hrs.watched seen) hpath hgs

theorem Course.watched {m m' : σ} {gs : List (Value × List ρ)} {result : Except Fault Report}
    {calls : List ρ} {log : List Event} (h : Course a m gs result m' calls log) :
    Course a.watched (m, []) gs result (m', calls) calls log := by
  cases h with
  | finished h => exact .finished (h.watched [])
  | @recordFails gs _ _ rs _ r _ _ _ _ _ h hrs hr hf rest more =>
    have hfails := adapt_watched hr (allRecords gs ++ rs)
    rw [List.append_assoc] at hfails
    exact .recordFails (h.watched []) (hrs.watched _) hfails hf rest more
  | pathRefused h hrs hpath hf more =>
    exact .pathRefused (h.watched []) (hrs.watched _) hpath hf more

/-- What an adaptation does is the course of its groups: the report or the fault, the memory, the
log, and the records that a watched adapter notes. -/
theorem report_eq_iff_course (a : Adapter σ ρ) (gs : List (Value × List ρ)) (m m' : σ)
    (result : Except Fault Report) (calls : List ρ) (log : List Event) :
    (report (some gs) (some a.watched) (m, []) = ⟨result, (m', calls), log⟩ ↔
      Course a m gs result m' calls log) ∧
    (report (some gs) (some a) m = ⟨result, m', log⟩ ↔
      ∃ calls, Course a m gs result m' calls log) := by
  obtain ⟨result₀, m₀, calls₀, log₀, h⟩ := a.exists_course gs m
  have hreport := report_of_course h
  have hwatched := report_of_course h.watched
  constructor
  · constructor
    · intro h'
      rw [hwatched] at h'
      cases h'
      exact h
    · intro h'
      exact report_of_course h'.watched
  · constructor
    · intro h'
      rw [hreport] at h'
      cases h'
      exact ⟨calls₀, h⟩
    · rintro ⟨_, h'⟩
      exact report_of_course h'

end Adapter

end WebLint
