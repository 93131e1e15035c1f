import Mathlib.Data.List.Forall2
import WebLint.Proofs.Chain.Watched

namespace WebLint

variable {σ α β : Type}

open Turn

/-! ### Acts that note calls besides -/

namespace Act

/-- The first act does on the first part of its memory what the second one does. -/
def Covers (x : Act (σ × List Call) α) (y : Act σ α) : Prop :=
  ∀ m cs, ∃ cs', x (m, cs) = ⟨(y m).result, ((y m).memory, cs'), (y m).log⟩

theorem Covers.bind {x : Act (σ × List Call) α} {y : Act σ α} {f : α → Act (σ × List Call) β}
    {g : α → Act σ β} (hx : x.Covers y) (hf : ∀ a, (f a).Covers (g a)) :
    (x >>= f).Covers (y >>= g) := by
  intro m cs
  obtain ⟨cs₁, hx⟩ := hx m cs
  rcases hy : y m with ⟨e | a, m₁, log⟩
  · rw [hy] at hx
    exact ⟨cs₁, by rw [bind_of_error hx, bind_of_error hy]⟩
  · rw [hy] at hx
    obtain ⟨cs₂, hf⟩ := hf a m₁ cs₁
    exact ⟨cs₂, by rw [bind_of_ok hx, bind_of_ok hy, hf]⟩

theorem Covers.map {x : Act (σ × List Call) α} {y : Act σ α} (h : x.Covers y) (f : α → β) :
    (f <$> x).Covers (f <$> y) := by
  intro m cs
  obtain ⟨cs', h⟩ := h m cs
  rcases hy : y m with ⟨e | a, m', log⟩
  · rw [hy] at h
    exact ⟨cs', by rw [map_of_error h, map_of_error hy]⟩
  · rw [hy] at h
    exact ⟨cs', by rw [map_of_ok h, map_of_ok hy]⟩

theorem Covers.mapFault {x : Act (σ × List Call) α} {y : Act σ α} (h : x.Covers y)
    (g : Fault → Fault) : (mapFault g x).Covers (mapFault g y) := by
  intro m cs
  obtain ⟨cs', h⟩ := h m cs
  exact ⟨cs', by simp only [Act.mapFault, h]⟩

theorem covers_ofResult (x : Except Fault α) :
    (ofResult x : Act (σ × List Call) α).Covers (ofResult x) := by
  intro m cs
  cases x <;> exact ⟨cs, rfl⟩

theorem covers_note (e : Event) : (note e : Act (σ × List Call) Unit).Covers (note e) :=
  fun _ cs => ⟨cs, rfl⟩

theorem covers_pure (a : α) : (pure a : Act (σ × List Call) α).Covers (pure a) :=
  fun _ cs => ⟨cs, rfl⟩

theorem covers_watch (c : Call) (x : Act σ α) : (watch c x).Covers x :=
  fun _ cs => ⟨cs ++ [c], rfl⟩

end Act

/-- The first stage does on the first part of its memory what the second one does. -/
structure Stage.Covers (s' : Stage (σ × List Call)) (s : Stage σ) : Prop where
  name : s'.name = s.name
  prepare : s'.prepare.Covers s.prepare
  process (r : Resource) (t : Text) : (s'.process r t).Covers (s.process r t)

theorem Stage.covers_watched (k : Nat) (s : Stage σ) : (s.watched k).Covers s := by
  refine ⟨rfl, ?_, fun r t => Act.covers_watch ⟨k, .process r t⟩ (s.process r t)⟩
  obtain ⟨name, preparation, process⟩ := s
  cases preparation with
  | none => exact Act.covers_pure ()
  | some x => exact Act.covers_watch ⟨k, .preparation⟩ x

theorem covers_watchedFrom (k : Nat) (ss : List (Stage σ)) :
    List.Forall₂ Stage.Covers (watchedFrom k ss) ss := by
  induction ss generalizing k with
  | nil => exact .nil
  | cons s ss ih => exact .cons (Stage.covers_watched k s) (ih (k + 1))

namespace Chain

theorem covers_runFrom {ss' : List (Stage (σ × List Call))} {ss : List (Stage σ)}
    (h : List.Forall₂ Stage.Covers ss' ss) (r : Resource) (k : Nat) (t : Text) :
    (runFrom r k ss' t).Covers (runFrom r k ss t) := by
  induction h generalizing k t with
  | nil => exact Act.covers_pure t
  | cons hs _ ih =>
    have hinvoke := hs.prepare.bind fun _ => hs.process r t
    rw [runFrom, runFrom, hs.name]
    refine (Act.covers_note _).bind fun _ => (hinvoke.mapFault _).bind fun v => ?_
    exact (Act.covers_ofResult _).bind fun t' => (Act.covers_note _).bind fun _ => ih (k + 1) t'

theorem covers_stage {B' : List (Stage (σ × List Call))} {B : List (Stage σ)}
    (h : List.Forall₂ Stage.Covers B' B) : (Chain.mk B').stage.Covers (Chain.mk B).stage where
  name := rfl
  prepare := Act.covers_pure ()
  process r t := (covers_runFrom h r 0 t).map Value.text

/-! ### Stages with a chain in their middle -/

def nested (A B C : List (Stage σ)) : Chain σ :=
  ⟨A ++ [(Chain.mk B).stage] ++ C⟩

/-- The nested chain with the calls of its stages noted, each under its place among all stages. -/
def nestedWatched (A B C : List (Stage σ)) : Chain (σ × List Call) :=
  nested (watchedFrom 0 A) (watchedFrom A.length B) (watchedFrom (A.length + B.length) C)

/-- The place that a nested chain counts for a stage, told from its place among all stages: there
are `a` stages before the inner chain and `b` in it. -/
inductive Nests (a b : Nat) : Nat → Nat → Prop
  | before {k : Nat} (h : k < a) : Nests a b k k
  | inside {k : Nat} (h : k < b) : Nests a b (a + k) k
  | behind {k : Nat} : Nests a b (a + b + k) (a + 1 + k)

/-- The course of stages side by side and in a nested chain: how both end, the memory that is left,
and the calls of the stages. -/
inductive NestedCourse (A B C : List (Stage σ)) (r : Resource) (t : Text) (m : σ) :
    Except Fault Text → Except Fault Text → σ → List Call → Prop
  | finished {us : List (Turn σ)} {t' : Text} {m' : σ} (h : Linked r t m us t' m')
    (hstages : A ++ B ++ C = us.map (·.stage)) :
    NestedCourse A B C r t m (.ok t') (.ok t') m' (allCalls r 0 us)
  | broken {us : List (Turn σ)} {t' : Text} {m₁ m' : σ} {s : Stage σ} {rest : List (Stage σ)}
    {hooks : List Hook} {φ : Failure} {own : List Event} {k : Nat} {f f' : Fault}
    (h : Linked r t m us t' m₁) (hstages : A ++ B ++ C = us.map (·.stage) ++ s :: rest)
    (hs : s.Fails r t' m₁ hooks φ m' own) (hk : Nests A.length B.length us.length k)
    (hf : φ.Reported us.length s.name r.uri f) (hf' : φ.Reported k s.name r.uri f') :
    NestedCourse A B C r t m (.error f) (.error f') m'
      (allCalls r 0 us ++ hooks.map (Call.mk us.length))

theorem NestedCourse.course {A B C : List (Stage σ)} {r : Resource} {t : Text} {m m' : σ}
    {result result' : Except Fault Text} {calls : List Call}
    (h : NestedCourse A B C r t m result result' m' calls) :
    ∃ log, Course r t m (A ++ B ++ C) result m' calls log := by
  cases h with
  | finished h hstages =>
    rw [hstages]
    exact ⟨_, .finished h⟩
  | broken h hstages hs _ hf _ =>
    rw [hstages]
    exact ⟨_, .broken h hs hf _⟩

end Chain

theorem Turn.Linked.append {r : Resource} {t t₁ t' : Text} {m m₁ m' : σ} {us us' : List (Turn σ)}
    (h : Linked r t m us t₁ m₁) (h' : Linked r t₁ m₁ us' t' m') :
    Linked r t m (us ++ us') t' m' := by
  induction h with
  | nil => exact h'
  | cons hu _ ih => exact .cons hu (ih h')

namespace Chain

theorem exists_passes_stage {r : Resource} {t t' : Text} {m m' : σ} {us : List (Turn σ)}
    (h : Linked r t m us t' m') :
    ∃ own, (Turn.mk (Chain.mk (us.map (·.stage))).stage t m t' m' own).Passes r :=
  ⟨_, m, [], _, rfl, Act.map_of_ok (run_of_course (.finished h)), rfl⟩

/-- A chain as a stage fails if one of its stages does, and raises the fault that it reports. -/
theorem exists_fails_stage {r : Resource} {t : Text} {m m' : σ} {ss : List (Stage σ)} {f : Fault}
    {log : List Event} (h : Chain.run ⟨ss⟩ r t m = ⟨.error f, m', log⟩) :
    ∃ hooks own, (Chain.mk ss).stage.Fails r t m hooks (.raised f) m' own := by
  have hprepare : (Chain.mk ss).stage.prepare m = ⟨.ok (), m, []⟩ := rfl
  exact ⟨_, _, .process hprepare (Act.map_of_error h)⟩

theorem reported_of_reported {φ : Failure} {k k' : Nat} {name name' uri uri' : Text} {f : Fault}
    (h : φ.Reported k name uri f) : (Failure.raised f).Reported k' name' uri' f := by
  cases h <;> exact .located

theorem nests_inside (us vs : List (Turn σ)) (s : Stage σ) (rest : List (Stage σ)) :
    Nests (us.map (·.stage)).length (vs.map (·.stage) ++ s :: rest).length (us ++ vs).length
      vs.length := by
  have hlt : vs.length < (vs.map (·.stage) ++ s :: rest).length := by simp
  have houter : (us ++ vs).length = us.length + vs.length := List.length_append
  rw [houter, List.length_map]
  exact .inside hlt

theorem nests_behind (us vs ws : List (Turn σ)) (u : Turn σ) :
    Nests (us.map (·.stage)).length (vs.map (·.stage)).length ((us ++ vs) ++ ws).length
      (us ++ u :: ws).length := by
  have houter : (us ++ u :: ws).length = us.length + 1 + ws.length := by
    rw [List.length_append, List.length_cons]
    omega
  rw [houter, List.length_append, List.length_append, List.length_map, List.length_map]
  exact .behind

def Follows (A B C : List (Stage σ)) (r : Resource) (t : Text) (m : σ) : Prop :=
  ∃ result result' m' calls log, NestedCourse A B C r t m result result' m' calls ∧
    (nested A B C).run r t m = ⟨result', m', log⟩

section

variable {r : Resource} {t t₁ t₂ t₃ : Text} {m m₁ m₂ m₃ m' : σ} {us vs ws : List (Turn σ)}
  {s : Stage σ} {hooks : List Hook} {φ : Failure} {own : List Event}

theorem follows_through (hA : Linked r t m us t₁ m₁) (hB : Linked r t₁ m₁ vs t₂ m₂)
    (hC : Linked r t₂ m₂ ws t₃ m₃) :
    Follows (us.map (·.stage)) (vs.map (·.stage)) (ws.map (·.stage)) r t m := by
  obtain ⟨own, hinner⟩ := exists_passes_stage hB
  have hrun := run_of_course (.finished (hA.append (.cons hinner hC)))
  rw [List.map_append, List.map_cons] at hrun
  rw [Follows, nested, List.append_assoc, List.singleton_append]
  exact ⟨_, _, _, _, _, .finished ((hA.append hB).append hC) (by simp), hrun⟩

theorem follows_before (hA : Linked r t m us t₁ m₁) (hs : s.Fails r t₁ m₁ hooks φ m' own)
    (rest B C : List (Stage σ)) :
    Follows (us.map (·.stage) ++ s :: rest) B C r t m := by
  obtain ⟨f, hf⟩ := exists_reported φ us.length s.name r.uri
  have hrun := run_of_course (.broken hA hs hf (rest ++ (Chain.mk B).stage :: C))
  have hstages : us.map (·.stage) ++ s :: rest ++ B ++ C =
      us.map (·.stage) ++ s :: (rest ++ B ++ C) := by simp
  have hk : Nests (us.map (·.stage) ++ s :: rest).length B.length us.length us.length :=
    .before (by simp)
  rw [Follows, nested, List.append_assoc, List.singleton_append, List.append_assoc, List.cons_append]
  exact ⟨_, _, _, _, _, .broken hA hstages hs hk hf hf, hrun⟩

theorem follows_inside (hA : Linked r t m us t₁ m₁) (hB : Linked r t₁ m₁ vs t₂ m₂)
    (hs : s.Fails r t₂ m₂ hooks φ m' own) (rest C : List (Stage σ)) :
    Follows (us.map (·.stage)) (vs.map (·.stage) ++ s :: rest) C r t m := by
  obtain ⟨f, hf⟩ := exists_reported φ (us ++ vs).length s.name r.uri
  obtain ⟨f', hf'⟩ := exists_reported φ vs.length s.name r.uri
  obtain ⟨hooks', own', hinner⟩ := exists_fails_stage (run_of_course (.broken hB hs hf' rest))
  have hrun := run_of_course (.broken hA hinner (reported_of_reported hf') C)
  have hstages : us.map (·.stage) ++ (vs.map (·.stage) ++ s :: rest) ++ C =
      (us ++ vs).map (·.stage) ++ s :: (rest ++ C) := by simp
  rw [Follows, nested, List.append_assoc, List.singleton_append]
  exact ⟨_, _, _, _, _,
    .broken (hA.append hB) hstages hs (nests_inside us vs s rest) hf hf', hrun⟩

theorem follows_behind (hA : Linked r t m us t₁ m₁) (hB : Linked r t₁ m₁ vs t₂ m₂)
    (hC : Linked r t₂ m₂ ws t₃ m₃) (hs : s.Fails r t₃ m₃ hooks φ m' own) (rest : List (Stage σ)) :
    Follows (us.map (·.stage)) (vs.map (·.stage)) (ws.map (·.stage) ++ s :: rest) r t m := by
  obtain ⟨own', hinner⟩ := exists_passes_stage hB
  obtain ⟨f, hf⟩ := exists_reported φ ((us ++ vs) ++ ws).length s.name r.uri
  obtain ⟨f', hf'⟩ := exists_reported φ (us ++ ⟨_, t₁, m₁, t₂, m₂, own'⟩ :: ws).length s.name r.uri
  have hrun := run_of_course (.broken (hA.append (.cons hinner hC)) hs hf' rest)
  rw [List.map_append, List.map_cons, List.append_assoc, List.cons_append] at hrun
  have hstages : us.map (·.stage) ++ vs.map (·.stage) ++ (ws.map (·.stage) ++ s :: rest) =
      ((us ++ vs) ++ ws).map (·.stage) ++ s :: rest := by simp
  rw [Follows, nested, List.append_assoc, List.singleton_append]
  exact ⟨_, _, _, _, _,
    .broken ((hA.append hB).append hC) hstages hs (nests_behind us vs ws _) hf hf', hrun⟩

end

theorem follows_nested (A B C : List (Stage σ)) (r : Resource) (t : Text) (m : σ) :
    Follows A B C r t m := by
  -- The first stage that fails is in one of the three parts, or all stages pass.
  obtain ⟨us, t₁, m₁, hA, rfl | ⟨s, rest, _, _, _, _, rfl, hs⟩⟩ := exists_linked r A t m
  · obtain ⟨vs, t₂, m₂, hB, rfl | ⟨s, rest, _, _, _, _, rfl, hs⟩⟩ := exists_linked r B t₁ m₁
    · obtain ⟨ws, t', m', hC, rfl | ⟨s, rest, _, _, _, _, rfl, hs⟩⟩ := exists_linked r C t₂ m₂
      · exact follows_through hA hB hC
      · exact follows_behind hA hB hC hs rest
    · exact follows_inside hA hB hs rest C
  · exact follows_before hA hs rest B C

theorem covers_nestedWatched (A B C : List (Stage σ)) (r : Resource) (t : Text) :
    ((nestedWatched A B C).run r t).Covers ((nested A B C).run r t) := by
  have hinner := covers_stage (covers_watchedFrom A.length B)
  have hstages : List.Forall₂ Stage.Covers (nestedWatched A B C).stages (nested A B C).stages :=
    List.rel_append (List.rel_append (covers_watchedFrom 0 A) (.cons hinner .nil))
      (covers_watchedFrom _ C)
  exact covers_runFrom hstages r 0 t

theorem run_nestedWatched {A B C : List (Stage σ)} {r : Resource} {t : Text} {m m' : σ}
    {result result' : Except Fault Text} {calls : List Call} {log log' : List Event}
    (hflat : (Chain.mk (A ++ B ++ C)).watched.run r t (m, []) = ⟨result, (m', calls), log⟩)
    (hnested : (nested A B C).run r t m = ⟨result', m', log'⟩) :
    (nestedWatched A B C).run r t (m, []) = ⟨result', (m', calls), log'⟩ := by
  have hstages : (Chain.mk (A ++ B ++ C)).watched = ⟨watchedFrom 0 A ++ watchedFrom A.length B ++
      watchedFrom (A.length + B.length) C⟩ := by
    rw [watched, watchedFrom_append, watchedFrom_append, List.length_append, Nat.zero_add,
      Nat.zero_add]
  obtain ⟨_, _, memory, _, _, hcourse, hwatched⟩ := follows_nested (watchedFrom 0 A)
    (watchedFrom A.length B) (watchedFrom (A.length + B.length) C) r t (m, [])
  obtain ⟨_, hsame⟩ := hcourse.course
  have hmemory : memory = (m', calls) := by
    have hrun := run_of_course hsame
    rw [← hstages, hflat] at hrun
    cases hrun
    rfl
  obtain ⟨calls', hcovers⟩ := covers_nestedWatched A B C r t m []
  rw [hnested] at hcovers
  have hcalls : calls' = calls := by
    have hrun := hcovers.symm.trans hwatched
    rw [hmemory] at hrun
    cases hrun
    rfl
  rw [hcalls] at hcovers
  exact hcovers

/-- Stages side by side and in a nested chain call the same hooks on the same texts and give the
same text, or fail in the same stage, for which each of both counts the place in its own way. -/
theorem process_nested (A B C : List (Stage σ)) (r : Resource) (t : Text) (m : σ) :
    ∃ result result' m' calls log log', NestedCourse A B C r t m result result' m' calls ∧
      (Chain.mk (A ++ B ++ C)).process (some r) (some t) m = ⟨result, m', log⟩ ∧
      (nested A B C).process (some r) (some t) m = ⟨result', m', log'⟩ ∧
      (Chain.mk (A ++ B ++ C)).watched.process (some r) (some t) (m, []) =
        ⟨result, (m', calls), log⟩ ∧
      (nestedWatched A B C).process (some r) (some t) (m, []) = ⟨result', (m', calls), log'⟩ := by
  obtain ⟨result, result', m', calls, log', hcourse, hnested⟩ := follows_nested A B C r t m
  obtain ⟨log, hflat⟩ := hcourse.course
  have hwatched := run_watched_of_course hflat
  exact ⟨result, result', m', calls, log, log', hcourse, run_of_course hflat, hnested, hwatched,
    run_nestedWatched hwatched hnested⟩

end Chain

end WebLint
