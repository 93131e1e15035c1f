import WebLint.Proofs.Chain.Course

namespace WebLint

variable {σ α : Type}

open Turn

def Act.watch (c : Call) (x : Act σ α) : Act (σ × List Call) α := fun s =>
  ⟨(x s.1).result, ((x s.1).memory, s.2 ++ [c]), (x s.1).log⟩

namespace Stage

def watched (index : Nat) (s : Stage σ) : Stage (σ × List Call) where
  name := s.name
  preparation := s.preparation.map (Act.watch ⟨index, .preparation⟩)
  process r t := Act.watch ⟨index, .process r t⟩ (s.process r t)

/-- The hooks that are called before the stage works on a text. -/
def preparationHooks (s : Stage σ) : List Hook :=
  if s.preparation.isSome then [.preparation] else []

theorem prepare_watched {s : Stage σ} {m m' : σ} {result : Except Fault Unit} {log : List Event}
    (h : s.prepare m = ⟨result, m', log⟩) (k : Nat) (cs : List Call) :
    (s.watched k).prepare (m, cs) =
      ⟨result, (m', cs ++ s.preparationHooks.map (Call.mk k)), log⟩ := by
  obtain ⟨name, preparation, process⟩ := s
  cases preparation with
  | none =>
    cases h
    simp [prepare, watched, preparationHooks, Act.done]
  | some x =>
    change x m = _ at h
    simp [prepare, watched, preparationHooks, Act.watch, h]

theorem process_watched {s : Stage σ} {r : Resource} {t : Text} {m m' : σ}
    {result : Except Fault Value} {log : List Event} (h : s.process r t m = ⟨result, m', log⟩)
    (k : Nat) (cs : List Call) :
    (s.watched k).process r t (m, cs) = ⟨result, (m', cs ++ [⟨k, .process r t⟩]), log⟩ := by
  change Act.watch _ (s.process r t) (m, cs) = _
  rw [Act.watch, h]

theorem map_hooks (s : Stage σ) (r : Resource) (t : Text) (k : Nat) :
    (s.hooks r t).map (Call.mk k) =
      s.preparationHooks.map (Call.mk k) ++ [⟨k, .process r t⟩] := by
  rw [hooks, preparationHooks, List.map_append]
  rfl

theorem Fails.watched {r : Resource} {s : Stage σ} {t : Text} {m m' : σ} {hooks : List Hook}
    {φ : Failure} {own : List Event} (h : s.Fails r t m hooks φ m' own) (k : Nat)
    (cs : List Call) :
    ∃ hooks', (s.watched k).Fails r t (m, cs) hooks' φ (m', cs ++ hooks.map (Call.mk k)) own := by
  cases h with
  | preparation hprepare =>
    have hsome : s.preparationHooks = [.preparation] := by
      obtain ⟨name, preparation, process⟩ := s
      cases preparation with
      | none => cases hprepare
      | some x => rfl
    rw [← hsome]
    exact ⟨_, .preparation (prepare_watched hprepare k cs)⟩
  | process hprepare hprocess =>
    rw [map_hooks, ← List.append_assoc]
    exact ⟨_, .process (prepare_watched hprepare k cs) (process_watched hprocess k _)⟩
  | noText hprepare hprocess hv =>
    rw [map_hooks, ← List.append_assoc]
    exact ⟨_, .noText (prepare_watched hprepare k cs) (process_watched hprocess k _) hv⟩

end Stage

/-- Stages from the place `k` on with their calls noted. -/
def watchedFrom (k : Nat) (stages : List (Stage σ)) : List (Stage (σ × List Call)) :=
  (stages.zipIdx k).map fun s => s.1.watched s.2

theorem watchedFrom_append (k : Nat) (ss ss' : List (Stage σ)) :
    watchedFrom k (ss ++ ss') = watchedFrom k ss ++ watchedFrom (k + ss.length) ss' := by
  simp [watchedFrom, List.zipIdx_append]

theorem Turn.Passes.watched {r : Resource} {u : Turn σ} (h : u.Passes r) (k : Nat)
    (cs : List Call) :
    (Turn.mk (u.stage.watched k) u.given (u.before, cs) u.gave (u.after, cs ++ u.calls r k)
      u.own).Passes r := by
  obtain ⟨m₁, log, log', hprepare, hprocess, hown⟩ := h
  rw [calls, Stage.map_hooks, ← List.append_assoc]
  exact ⟨_, log, log', Stage.prepare_watched hprepare k cs, Stage.process_watched hprocess k _,
    hown⟩

theorem Turn.Linked.watched {r : Resource} {t t' : Text} {m m' : σ} {us : List (Turn σ)}
    (h : Linked r t m us t' m') (k : Nat) (cs : List Call) :
    ∃ ws, Linked r t (m, cs) ws t' (m', cs ++ allCalls r k us) ∧
      ws.map (·.stage) = watchedFrom k (us.map (·.stage)) ∧ ws.length = us.length ∧
      allLogs r k ws = allLogs r k us := by
  induction h generalizing k cs with
  | nil => exact ⟨[], by simpa [allCalls] using .nil, rfl, rfl, rfl⟩
  | @cons u us t m hu _ ih =>
    obtain ⟨ws, hws, hstages, hlength, hlogs⟩ := ih (k + 1) (cs ++ u.calls r k)
    have hcalls : cs ++ allCalls r k (u :: us) =
        cs ++ u.calls r k ++ allCalls r (k + 1) us := by
      simp only [allCalls, List.zipIdx_cons, List.flatMap_cons, List.append_assoc]
    rw [hcalls]
    refine ⟨_ :: ws, .cons (hu.watched k cs) hws, ?_, ?_, ?_⟩
    · rw [List.map_cons, hstages]
      rfl
    · rw [List.length_cons, List.length_cons, hlength]
    · rw [allLogs, allLogs, List.zipIdx_cons, List.zipIdx_cons, List.flatMap_cons,
        List.flatMap_cons]
      exact congrArg _ hlogs

namespace Chain

def watched (c : Chain σ) : Chain (σ × List Call) :=
  ⟨watchedFrom 0 c.stages⟩

theorem run_watched_of_course {r : Resource} {t : Text} {m m' : σ} {stages : List (Stage σ)}
    {result : Except Fault Text} {calls : List Call} {log : List Event}
    (h : Course r t m stages result m' calls log) :
    (Chain.mk stages).watched.run r t (m, []) = ⟨result, (m', calls), log⟩ := by
  rw [watched]
  cases h with
  | finished h =>
    obtain ⟨ws, hws, hstages, -, hlogs⟩ := h.watched 0 []
    have hrun := run_of_course (.finished hws)
    rw [hstages, hlogs] at hrun
    exact hrun
  | @broken us t' m₁ _ s hooks φ own f h hs hf rest =>
    obtain ⟨ws, hws, hstages, hlength, hlogs⟩ := h.watched 0 []
    obtain ⟨hooks', hs'⟩ := hs.watched us.length ([] ++ allCalls r 0 us)
    rw [← hlength] at hs' hf
    have hrun := run_of_course (.broken hws hs' hf (watchedFrom (us.length + 1) rest))
    rw [hstages, hlogs, hlength] at hrun
    rw [watchedFrom_append, List.length_map, Nat.zero_add]
    exact hrun

/-- What a chain does on a text is the course of its stages: the result, the memory, the log, and
the calls that a watched chain notes. -/
theorem process_eq_iff_course (c : Chain σ) (r : Resource) (t : Text) (m m' : σ)
    (result : Except Fault Text) (calls : List Call) (log : List Event) :
    (c.watched.process (some r) (some t) (m, []) = ⟨result, (m', calls), log⟩ ↔
      Course r t m c.stages result m' calls log) ∧
    (c.process (some r) (some t) m = ⟨result, m', log⟩ ↔
      ∃ calls, Course r t m c.stages result m' calls log) := by
  obtain ⟨result₀, m₀, calls₀, log₀, h⟩ := exists_course r c.stages t m
  have hrun : c.process (some r) (some t) m = ⟨result₀, m₀, log₀⟩ := run_of_course h
  have hwatched : c.watched.process (some r) (some t) (m, []) = ⟨result₀, (m₀, calls₀), log₀⟩ :=
    run_watched_of_course h
  constructor
  · constructor
    · intro hprocess
      rw [hwatched] at hprocess
      cases hprocess
      exact h
    · exact run_watched_of_course
  · constructor
    · intro hprocess
      rw [hrun] at hprocess
      cases hprocess
      exact ⟨calls₀, h⟩
    · rintro ⟨_, h⟩
      exact run_of_course h

end Chain

end WebLint
