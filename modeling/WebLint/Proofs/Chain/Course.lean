import WebLint.Chain
import WebLint.Proofs.Act

namespace WebLint

variable {σ : Type}

/-- What a chain calls: the preparation of a stage, or its work on a text. -/
inductive Hook
  | preparation
  | process (r : Resource) (t : Text)

structure Call where
  index : Nat
  hook : Hook

/-- How a stage fails: something is raised in one of its hooks, or it gives no text. -/
inductive Failure
  | raised (f : Fault)
  | noText (v : Value)

inductive Failure.Reported (index : Nat) (name uri : Text) : Failure → Fault → Prop
  | located {i : Nat} {n u : Text} {why : Breakdown Fault} :
    Reported index name uri (.raised (.stage i n u why)) (.stage i n u why)
  | unlocated {f : Fault} (h : ∀ i n u why, f ≠ .stage i n u why) :
    Reported index name uri (.raised f) (.stage index name uri (.raised f))
  | noText {v : Value} :
    Reported index name uri (.noText v) (.stage index name uri (.gave v.kindName))

def Stage.hooks (s : Stage σ) (r : Resource) (t : Text) : List Hook :=
  (if s.preparation.isSome then [.preparation] else []) ++ [.process r t]

/-- A stage fails on a text: the hooks that are called, how it fails, and what it leaves behind. -/
inductive Stage.Fails (r : Resource) (s : Stage σ) (t : Text) (m : σ) :
    List Hook → Failure → σ → List Event → Prop
  | preparation {f : Fault} {m' : σ} {log : List Event} (h : s.prepare m = ⟨.error f, m', log⟩) :
    Fails r s t m [.preparation] (.raised f) m' log
  | process {f : Fault} {m₁ m' : σ} {log log' : List Event} (h : s.prepare m = ⟨.ok (), m₁, log⟩)
    (h' : s.process r t m₁ = ⟨.error f, m', log'⟩) :
    Fails r s t m (s.hooks r t) (.raised f) m' (log ++ log')
  | noText {v : Value} {m₁ m' : σ} {log log' : List Event} (h : s.prepare m = ⟨.ok (), m₁, log⟩)
    (h' : s.process r t m₁ = ⟨.ok v, m', log'⟩) (hv : ∀ t', v ≠ .text t') :
    Fails r s t m (s.hooks r t) (.noText v) m' (log ++ log')

/-- The turn of a stage that passes: the text that it was given and the memory that it found, the
text that it gave and the memory that it left, and what it logged itself. -/
structure Turn (σ : Type) where
  stage : Stage σ
  given : Text
  before : σ
  gave : Text
  after : σ
  own : List Event

namespace Turn

def Passes (r : Resource) (u : Turn σ) : Prop :=
  ∃ m₁ log log', u.stage.prepare u.before = ⟨.ok (), m₁, log⟩ ∧
    u.stage.process r u.given m₁ = ⟨.ok (.text u.gave), u.after, log'⟩ ∧ u.own = log ++ log'

def calls (r : Resource) (index : Nat) (u : Turn σ) : List Call :=
  (u.stage.hooks r u.given).map (Call.mk index)

def log (r : Resource) (index : Nat) (u : Turn σ) : List Event :=
  .running index u.stage.name r.uri :: u.own ++ [.produced index u.stage.name u.gave.length]

inductive Linked (r : Resource) : Text → σ → List (Turn σ) → Text → σ → Prop
  | nil {t : Text} {m : σ} : Linked r t m [] t m
  | cons {u : Turn σ} {us : List (Turn σ)} {t : Text} {m : σ} (hu : u.Passes r)
    (hus : Linked r u.gave u.after us t m) : Linked r u.given u.before (u :: us) t m

def allCalls (r : Resource) (k : Nat) (us : List (Turn σ)) : List Call :=
  (us.zipIdx k).flatMap fun u => u.1.calls r u.2

def allLogs (r : Resource) (k : Nat) (us : List (Turn σ)) : List Event :=
  (us.zipIdx k).flatMap fun u => u.1.log r u.2

end Turn

open Turn

/-- The course of a chain on a text: how it ends, the memory that is left, and all calls and log
lines in their order. -/
inductive Chain.Course (r : Resource) (t : Text) (m : σ) :
    List (Stage σ) → Except Fault Text → σ → List Call → List Event → Prop
  | finished {us : List (Turn σ)} {t' : Text} {m' : σ} (h : Linked r t m us t' m') :
    Course r t m (us.map (·.stage)) (.ok t') m' (allCalls r 0 us) (allLogs r 0 us)
  | broken {us : List (Turn σ)} {t' : Text} {m' m'' : σ} {s : Stage σ} {hooks : List Hook}
    {φ : Failure} {own : List Event} {f : Fault} (h : Linked r t m us t' m')
    (hs : s.Fails r t' m' hooks φ m'' own) (hf : φ.Reported us.length s.name r.uri f)
    (rest : List (Stage σ)) :
    Course r t m (us.map (·.stage) ++ s :: rest) (.error f) m''
      (allCalls r 0 us ++ hooks.map (Call.mk us.length))
      (allLogs r 0 us ++ .running us.length s.name r.uri :: own)

namespace Chain

/-! ### One stage -/

theorem invoke_of_passes {r : Resource} {u : Turn σ} (h : u.Passes r) :
    u.stage.invoke r u.given u.before = ⟨.ok (.text u.gave), u.after, u.own⟩ := by
  obtain ⟨m₁, log, log', hprepare, hprocess, hown⟩ := h
  rw [Stage.invoke, Act.bind_of_ok hprepare, hprocess, hown]

theorem runFrom_of_passes {r : Resource} {u : Turn σ} (h : u.Passes r) (k : Nat)
    (rest : List (Stage σ)) :
    runFrom r k (u.stage :: rest) u.given u.before =
      ⟨(runFrom r (k + 1) rest u.gave u.after).result,
        (runFrom r (k + 1) rest u.gave u.after).memory,
        u.log r k ++ (runFrom r (k + 1) rest u.gave u.after).log⟩ := by
  have hinvoke := Act.mapFault_of_ok (g := locate k u.stage.name r.uri) (invoke_of_passes h)
  have htext : textOf k u.stage.name r.uri (.text u.gave) = .ok u.gave := rfl
  rw [runFrom, Act.note_bind, Act.bind_of_ok hinvoke, Act.ofResult_bind_of_ok htext, Act.note_bind]
  simp only [Turn.log, List.nil_append, List.cons_append, List.append_assoc]

theorem locate_eq {k : Nat} {name uri : Text} {f f' : Fault}
    (h : (Failure.raised f).Reported k name uri f') : locate k name uri f = f' := by
  cases h with
  | located => rfl
  | unlocated h =>
    unfold locate
    split
    · exact absurd rfl (h _ _ _ _)
    · rfl

theorem textOf_eq {k : Nat} {name uri : Text} {v : Value} {f : Fault} (hv : ∀ t, v ≠ .text t)
    (h : (Failure.noText v).Reported k name uri f) : textOf k name uri v = .error f := by
  cases h
  unfold textOf
  split
  · exact absurd rfl (hv _)
  · rfl

theorem runFrom_of_fails {r : Resource} {s : Stage σ} {t : Text} {m m' : σ} {hooks : List Hook}
    {φ : Failure} {own : List Event} {k : Nat} {f : Fault} (h : s.Fails r t m hooks φ m' own)
    (hf : φ.Reported k s.name r.uri f) (rest : List (Stage σ)) :
    runFrom r k (s :: rest) t m = ⟨.error f, m', .running k s.name r.uri :: own⟩ := by
  rw [runFrom, Act.note_bind]
  cases h with
  | @preparation f' _ _ hprepare =>
    have hinvoke : s.invoke r t m = ⟨.error f', m', own⟩ := by
      rw [Stage.invoke, Act.bind_of_error hprepare]
    rw [Act.bind_of_error (Act.mapFault_of_error hinvoke), locate_eq hf]
  | @process f' _ _ log log' hprepare hprocess =>
    have hinvoke : s.invoke r t m = ⟨.error f', m', log ++ log'⟩ := by
      rw [Stage.invoke, Act.bind_of_ok hprepare, hprocess]
    rw [Act.bind_of_error (Act.mapFault_of_error hinvoke), locate_eq hf]
  | @noText v _ _ log log' hprepare hprocess hv =>
    have hinvoke : s.invoke r t m = ⟨.ok v, m', log ++ log'⟩ := by
      rw [Stage.invoke, Act.bind_of_ok hprepare, hprocess]
    rw [Act.bind_of_ok (Act.mapFault_of_ok hinvoke), Act.ofResult_bind_of_error (textOf_eq hv hf),
      List.append_nil]

theorem passes_or_fails (r : Resource) (s : Stage σ) (t : Text) (m : σ) :
    (∃ t' m' own, (Turn.mk s t m t' m' own).Passes r) ∨
      ∃ hooks φ m' own, s.Fails r t m hooks φ m' own := by
  cases hprepare : s.prepare m with
  | mk result m₁ log =>
    cases result with
    | error f => exact .inr ⟨_, _, _, _, .preparation hprepare⟩
    | ok _ =>
      cases hprocess : s.process r t m₁ with
      | mk result m₂ log' =>
        cases result with
        | error f => exact .inr ⟨_, _, _, _, .process hprepare hprocess⟩
        | ok v =>
          by_cases hv : ∃ t', v = .text t'
          · obtain ⟨t', rfl⟩ := hv
            exact .inl ⟨t', m₂, _, m₁, log, log', hprepare, hprocess, rfl⟩
          · exact .inr ⟨_, _, _, _, .noText hprepare hprocess fun t' h => hv ⟨t', h⟩⟩

theorem exists_reported (φ : Failure) (k : Nat) (name uri : Text) :
    ∃ f, φ.Reported k name uri f := by
  cases φ with
  | noText v => exact ⟨_, .noText⟩
  | raised f =>
    by_cases h : ∃ i n u why, f = .stage i n u why
    · obtain ⟨i, n, u, why, rfl⟩ := h
      exact ⟨_, .located⟩
    · exact ⟨_, .unlocated fun i n u why he => h ⟨i, n, u, why, he⟩⟩

/-! ### All stages -/

theorem runFrom_of_linked {r : Resource} {t t' : Text} {m m' : σ} {us : List (Turn σ)}
    (h : Linked r t m us t' m') (k : Nat) (rest : List (Stage σ)) :
    runFrom r k (us.map (·.stage) ++ rest) t m =
      ⟨(runFrom r (k + us.length) rest t' m').result,
        (runFrom r (k + us.length) rest t' m').memory,
        allLogs r k us ++ (runFrom r (k + us.length) rest t' m').log⟩ := by
  induction h generalizing k with
  | nil => rfl
  | @cons u us t m hu _ ih =>
    have hk : k + 1 + us.length = k + (u :: us).length := by
      rw [List.length_cons]
      omega
    rw [List.map_cons, List.cons_append, runFrom_of_passes hu, ih, hk]
    simp only [allLogs, List.zipIdx_cons, List.flatMap_cons, List.append_assoc]

theorem run_of_course {r : Resource} {t : Text} {m m' : σ} {stages : List (Stage σ)}
    {result : Except Fault Text} {calls : List Call} {log : List Event}
    (h : Course r t m stages result m' calls log) :
    Chain.run ⟨stages⟩ r t m = ⟨result, m', log⟩ := by
  cases h with
  | finished h =>
    have hrun := runFrom_of_linked h 0 []
    rw [List.append_nil] at hrun
    rw [Chain.run, hrun, runFrom]
    simp [pure, Act.done]
  | broken h hs hf rest =>
    have hfails := runFrom_of_fails hs hf rest
    rw [Chain.run, runFrom_of_linked h 0, Nat.zero_add, hfails]

theorem exists_linked (r : Resource) (stages : List (Stage σ)) (t : Text) (m : σ) :
    ∃ us t' m', Linked r t m us t' m' ∧
      (stages = us.map (·.stage) ∨
        ∃ s rest hooks φ m'' own, stages = us.map (·.stage) ++ s :: rest ∧
          s.Fails r t' m' hooks φ m'' own) := by
  induction stages generalizing t m with
  | nil => exact ⟨[], t, m, .nil, .inl rfl⟩
  | cons s stages ih =>
    obtain ⟨t₁, m₁, own, hu⟩ | ⟨hooks, φ, m', own, hs⟩ := passes_or_fails r s t m
    · obtain ⟨us, t', m', hus, hstages⟩ := ih t₁ m₁
      refine ⟨⟨s, t, m, t₁, m₁, own⟩ :: us, t', m', .cons hu hus, ?_⟩
      obtain rfl | ⟨s', rest, hooks, φ, m'', own', rfl, hs⟩ := hstages
      · exact .inl rfl
      · exact .inr ⟨s', rest, hooks, φ, m'', own', rfl, hs⟩
    · exact ⟨[], t, m, .nil, .inr ⟨s, stages, hooks, φ, m', own, rfl, hs⟩⟩

theorem exists_course (r : Resource) (stages : List (Stage σ)) (t : Text) (m : σ) :
    ∃ result m' calls log, Course r t m stages result m' calls log := by
  obtain ⟨us, t', m', h, rfl | ⟨s, rest, hooks, φ, m'', own, rfl, hs⟩⟩ :=
    exists_linked r stages t m
  · exact ⟨_, _, _, _, .finished h⟩
  · obtain ⟨f, hf⟩ := exists_reported φ us.length s.name r.uri
    exact ⟨_, _, _, _, .broken h hs hf rest⟩

end Chain

end WebLint
